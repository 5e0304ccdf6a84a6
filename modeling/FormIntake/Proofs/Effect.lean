import FormIntake.Intake.Run

/-! # Effects

Work at the desk and parts of a run are effects: they change a state, and they give a result or
fail.  Two kinds of statement about effects go through from the parts of an effect to the whole:

* `Effect.Keeps view P work`: whatever comes of it, the effect leaves what the view shows of the
  state as it was, and what it gives has the property;
* `Effect.Agree Alike first second`: from alike states two effects give the same result or the same
  failure, and states that are alike again. -/

namespace FormIntake

/-- A computation that changes a state and can fail. -/
abbrev Effect (σ α : Type) := ExceptT Failure (StateM σ) α

namespace Effect

variable {σ α β γ : Type}

/-- What comes of an effect, and the state after it. -/
def outcome (work : Effect σ α) (state : σ) : Except Failure α × σ := work.run.run state

theorem outcome_bind_of_ok {work : Effect σ α} {next : α → Effect σ β} {state after : σ} {a : α}
    (h : outcome work state = (.ok a, after)) :
    outcome (work >>= next) state = outcome (next a) after := by
  have hs : outcome (work >>= next) state =
      (ExceptT.bindCont next (outcome work state).1 : StateM σ _).run (outcome work state).2 := rfl
  rw [hs, h]
  rfl

theorem outcome_bind_of_error {work : Effect σ α} {next : α → Effect σ β} {state after : σ}
    {failure : Failure} (h : outcome work state = (.error failure, after)) :
    outcome (work >>= next) state = (.error failure, after) := by
  have hs : outcome (work >>= next) state =
      (ExceptT.bindCont next (outcome work state).1 : StateM σ _).run (outcome work state).2 := rfl
  rw [hs, h]
  rfl

/-- What comes of two effects one after the other comes of the second from where the first leads. -/
theorem exists_of_outcome_bind {work : Effect σ α} {next : α → Effect σ β} {state after : σ} {b : β}
    (h : outcome (work >>= next) state = (.ok b, after)) :
    ∃ a middle, outcome work state = (.ok a, middle) ∧ outcome (next a) middle = (.ok b, after) := by
  cases ho : outcome work state with
  | mk result middle =>
      cases result with
      | error failure =>
          rw [outcome_bind_of_error ho] at h
          cases h
      | ok a =>
          rw [outcome_bind_of_ok ho] at h
          exact ⟨a, middle, rfl, h⟩

/-! ### What an effect leaves as it is -/

/-- Whatever comes of the effect, what the view shows of the state is the same after it; and what
the effect gives, if it does not fail, has the property. -/
def Keeps (view : σ → γ) (P : α → Prop) (work : Effect σ α) : Prop :=
  ∀ state, view (outcome work state).2 = view state ∧ ∀ a, (outcome work state).1 = .ok a → P a

/-- Whatever comes of the effect, what the view shows of the state is the same after it. -/
abbrev Fixes (view : σ → γ) (work : Effect σ α) : Prop := Keeps view (fun _ => True) work

section keeps

variable {view : σ → γ} {P : α → Prop}

theorem keeps_pure {a : α} (h : P a) : Keeps view P (pure a : Effect σ α) := by
  intro state
  refine ⟨rfl, ?_⟩
  rintro _ ⟨⟩
  exact h

theorem fixes_pure (a : α) : Fixes view (pure a : Effect σ α) := keeps_pure trivial

theorem fixes_lift (result : Except Failure α) : Fixes view (liftM result : Effect σ α) :=
  fun _ => ⟨rfl, fun _ _ => trivial⟩

theorem fixes_get : Fixes view (get : Effect σ σ) := fun _ => ⟨rfl, fun _ _ => trivial⟩

theorem fixes_modify {update : σ → σ} (h : ∀ state, view (update state) = view state) :
    Fixes view (modify update : Effect σ Unit) := fun state => ⟨h state, fun _ _ => trivial⟩

theorem Keeps.bind {Q : β → Prop} {work : Effect σ α} {next : α → Effect σ β}
    (h : Keeps view P work) (hn : ∀ a, P a → Keeps view Q (next a)) :
    Keeps view Q (work >>= next) := by
  intro state
  have hw := h state
  cases ho : outcome work state with
  | mk result after =>
      rw [ho] at hw
      cases result with
      | ok a =>
          obtain ⟨hv, hb⟩ := hn a (hw.2 a rfl) after
          rw [outcome_bind_of_ok ho]
          exact ⟨hv.trans hw.1, hb⟩
      | error failure =>
          rw [outcome_bind_of_error ho]
          refine ⟨hw.1, ?_⟩
          rintro _ ⟨⟩

theorem Keeps.map {Q : β → Prop} {work : Effect σ α} {f : α → β} (h : Keeps view P work)
    (hf : ∀ a, P a → Q (f a)) : Keeps view Q (f <$> work) := by
  rw [map_eq_pure_bind]
  exact h.bind fun a ha => keeps_pure (hf a ha)

theorem Keeps.mono {Q : α → Prop} {work : Effect σ α} (h : Keeps view P work)
    (hq : ∀ a, P a → Q a) : Keeps view Q work :=
  fun state => ⟨(h state).1, fun a ha => hq a ((h state).2 a ha)⟩

theorem Keeps.view_eq {work : Effect σ α} (h : Keeps view P work) {state after : σ}
    {result : Except Failure α} (ho : outcome work state = (result, after)) :
    view after = view state := by
  rw [← (h state).1, ho]

theorem Keeps.of_eq_ok {work : Effect σ α} (h : Keeps view P work) {state after : σ} {a : α}
    (ho : outcome work state = (.ok a, after)) : P a :=
  (h state).2 a (congrArg Prod.fst ho)

/-- A view of what is left as it is shows no change either. -/
theorem Keeps.comp {work : Effect σ α} (h : Keeps view P work) (look : γ → β) :
    Keeps (look ∘ view) P work := fun state => ⟨congrArg look (h state).1, (h state).2⟩

theorem fixes_mapM {f : α → Effect σ β} (h : ∀ a, Fixes view (f a)) :
    ∀ as : List α, Fixes view (as.mapM f)
  | [] => fixes_pure []
  | a :: as => by
    rw [List.mapM_cons]
    exact (h a).bind fun _ _ => (fixes_mapM h as).bind fun _ _ => fixes_pure _

theorem keeps_length_mapM {f : α → Effect σ β} (h : ∀ a, Fixes view (f a)) (as : List α) :
    Keeps view (fun bs => bs.length = as.length) (as.mapM f) := by
  induction as with
  | nil => exact keeps_pure rfl
  | cons a as ih =>
      rw [List.mapM_cons]
      refine (h a).bind fun b _ => ih.bind fun bs hbs => keeps_pure ?_
      rw [List.length_cons, List.length_cons, hbs]

end keeps

/-! ### Effects that cannot tell states apart -/

/-- From alike states both effects come to the same, and the states after them are alike. -/
def Agree (Alike : σ → σ → Prop) (first second : Effect σ α) : Prop :=
  ∀ s t, Alike s t →
    (outcome first s).1 = (outcome second t).1 ∧ Alike (outcome first s).2 (outcome second t).2

section agree

variable {Alike : σ → σ → Prop}

theorem agree_pure (a : α) : Agree Alike (pure a : Effect σ α) (pure a) := fun _ _ h => ⟨rfl, h⟩

theorem agree_lift (result : Except Failure α) :
    Agree Alike (liftM result : Effect σ α) (liftM result) := fun _ _ h => ⟨rfl, h⟩

theorem agree_modify {f g : σ → σ} (h : ∀ s t, Alike s t → Alike (f s) (g t)) :
    Agree Alike (modify f : Effect σ Unit) (modify g) := fun s t hs => ⟨rfl, h s t hs⟩

theorem Agree.bind {first second : Effect σ α} {next others : α → Effect σ β}
    (h : Agree Alike first second) (hn : ∀ a, Agree Alike (next a) (others a)) :
    Agree Alike (first >>= next) (second >>= others) := by
  intro s t hs
  have hw := h s t hs
  cases hf : outcome first s with
  | mk one s' =>
      cases hg : outcome second t with
      | mk two t' =>
          rw [hf, hg] at hw
          obtain ⟨he, ha⟩ := hw
          cases he
          cases one with
          | ok a =>
              rw [outcome_bind_of_ok hf, outcome_bind_of_ok hg]
              exact hn a s' t' ha
          | error failure =>
              rw [outcome_bind_of_error hf, outcome_bind_of_error hg]
              exact ⟨rfl, ha⟩

/-- What goes on with the state itself agrees if it does for any two alike states. -/
theorem agree_get_bind {next others : σ → Effect σ β}
    (h : ∀ s t, Alike s t → Agree Alike (next s) (others t)) :
    Agree Alike (get >>= next) (get >>= others) := fun s t hs => h s t hs s t hs

theorem agree_mapM {f g : α → Effect σ β} (h : ∀ a, Agree Alike (f a) (g a)) :
    ∀ as : List α, Agree Alike (as.mapM f) (as.mapM g)
  | [] => agree_pure []
  | a :: as => by
    rw [List.mapM_cons, List.mapM_cons]
    exact (h a).bind fun _ => (agree_mapM h as).bind fun _ => agree_pure _

end agree
end Effect
end FormIntake
