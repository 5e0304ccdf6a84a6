import FormIntake.Extension.Action
import FormIntake.Proofs.Effect
import FormIntake.Proofs.Rendering.Encoding

/-! # The two passes

Where a template has no token of the form, replacing all its tokens and replacing the ambient ones are
the same work, with any extensions: the same output or the same failure, and the same desk after it.
If its tokens are no ambient ones either, and the extensions hand on what they are shown, it stays as
it is written, in every format (`Renderer.render_eq_renderAmbient`).

Extensions may do all kinds of things at the desk, so what they hand on is said of every desk
(`Effect.Yields`). -/

namespace FormIntake

open Template

namespace Effect

variable {σ α β : Type}

/-- Whatever the state is, the effect gives this. -/
def Yields (work : Effect σ α) (a : α) : Prop :=
  ∀ state, ∃ after, outcome work state = (.ok a, after)

theorem yields_pure (a : α) : Yields (pure a : Effect σ α) a := fun state => ⟨state, rfl⟩

theorem Yields.bind {work : Effect σ α} {next : α → Effect σ β} {a : α} {b : β}
    (h : Yields work a) (hn : Yields (next a) b) : Yields (work >>= next) b := by
  intro state
  obtain ⟨middle, hm⟩ := h state
  obtain ⟨after, ha⟩ := hn middle
  exact ⟨after, (outcome_bind_of_ok hm).trans ha⟩

theorem yields_mapM {f : α → Effect σ β} {g : α → β} :
    ∀ {as : List α}, (∀ a ∈ as, Yields (f a) (g a)) → Yields (as.mapM f) (as.map g)
  | [], _ => yields_pure []
  | a :: as, h => by
    obtain ⟨ha, has⟩ := List.forall_mem_cons.mp h
    rw [List.mapM_cons]
    exact ha.bind ((yields_mapM has).bind (yields_pure _))

/-- What each step hands on is handed on by all of them. -/
theorem yields_foldlM {f : β → α → Effect σ β} {b : β} :
    ∀ {as : List α}, (∀ a ∈ as, Yields (f b a) b) → Yields (as.foldlM f b) b
  | [], _ => yields_pure b
  | a :: as, h => by
    obtain ⟨ha, has⟩ := List.forall_mem_cons.mp h
    rw [List.foldlM_cons]
    exact ha.bind (yields_foldlM has)

theorem mapM_congr {f g : α → Effect σ β} :
    ∀ {as : List α}, (∀ a ∈ as, f a = g a) → as.mapM f = as.mapM g
  | [], _ => rfl
  | a :: as, h => by
    obtain ⟨ha, has⟩ := List.forall_mem_cons.mp h
    rw [List.mapM_cons, List.mapM_cons, ha, mapM_congr has]

end Effect

open Effect

theorem Work.ask_bind_apply {α β : Type} (look : Form → α) (next : α → Work β) (desk : Desk) :
    (Work.ask look >>= next) desk = next (look desk.form) desk := rfl

theorem Chain.mem_of_mem_order {chain : Chain} {link : Link} (h : link ∈ chain.order) :
    link ∈ chain := by
  simp only [Chain.order, List.mem_append, List.mem_reverse, List.mem_filter] at h
  rcases h with (h | h) | h <;> exact h.1

/-- The implementation hands on the text for an ambient token as it is, whatever else it does. -/
def Implementation.PassesTokens (implementation : Implementation) : Prop :=
  ∀ (text : String) (token : Token) (format : Format),
    Yields (implementation.call
      [("value", .given (.text text)), ("token", .token token), ("fmt", .given (.text format.name))])
      (.text text)

namespace Renderer

variable {renderer : Renderer} {format : Format} {request : Request}

/-! ### One token -/

theorem resolve_of_notMem {token : Token} (h : token.name ∉ formTokens) :
    renderer.resolve format token = pure .null := by
  unfold resolve
  split
  case h_13 => rfl
  all_goals
    next hname =>
    rw [hname] at h
    exact absurd (by decide) h

theorem replaceToken_of_notMem {token : Token} (h : token.name ∉ formTokens) :
    renderer.replaceToken format request token = renderer.replaceAmbient format request token := by
  rw [replaceToken, resolve_of_notMem h, pure_bind]

/-- An unknown token is shown to the extensions as it is written. -/
theorem replaceAmbient_of_notMem {token : Token} (h : token.name ∉ ambientTokens) :
    renderer.replaceAmbient format request token =
      renderer.bus.run .ambientToken (.text token.raw)
          [("token", .token token), ("fmt", .given (.text format.name))] >>= fun replaced =>
        if replaced.isText token.raw then pure token.raw
        else (liftM replaced.plain : Work String) >>= fun text => pure (format.encode text) := by
  funext desk
  have hambient : renderer.ambient? desk.form request token = .ok none := ambient?_eq_none_iff.mpr h
  rw [replaceAmbient, Work.ask_bind_apply, id, hambient, Work.lift_ok_bind]
  rfl

/-- A token that nobody knows or claims stays as it is written. -/
theorem yields_replaceAmbient {token : Token} (h : token.name ∉ ambientTokens)
    (hp : ∀ link ∈ renderer.bus.chain Hook.ambientToken.name, link.implementation.PassesTokens) :
    Yields (renderer.replaceAmbient format request token) token.raw := by
  have hrun : Yields (renderer.bus.run .ambientToken (.text token.raw)
      [("token", .token token), ("fmt", .given (.text format.name))]) (.text token.raw) :=
    yields_foldlM fun link hl => hp link (Chain.mem_of_mem_order hl) token.raw token format
  rw [replaceAmbient_of_notMem h]
  refine hrun.bind ?_
  rw [if_pos (Subject.isText_text token.raw)]
  exact yields_pure token.raw

/-! ### Templates -/

theorem substitute_congr {text : String} {first second : Token → Work String}
    (h : ∀ token, .token token ∈ parse text → first token = second token) :
    substitute text first = substitute text second := by
  refine congrArg (· >>= fun parts => pure (String.join parts)) (mapM_congr fun segment hs => ?_)
  cases segment with
  | literal s => rfl
  | token token => exact h token hs

/-- A template whose tokens stay as they are written does so itself. -/
theorem yields_substitute {text : String} {replace : Token → Work String}
    (h : ∀ token, .token token ∈ parse text → Yields (replace token) token.raw) :
    Yields (substitute text replace) text := by
  have htext : String.join ((parse text).map Segment.source) = text := by
    have hsource := congrArg String.toList (render_parse text)
    rw [Template.render, String.toList_ofList] at hsource
    rw [← String.toList_inj, String.toList_join, List.flatMap_map, hsource]
  have hjoin : Yields (pure (String.join ((parse text).map Segment.source)) : Work String) text := by
    rw [htext]
    exact yields_pure text
  refine (yields_mapM fun segment hs => ?_).bind hjoin
  cases segment with
  | literal s => exact yields_pure s
  | token token => exact h token hs

/-- Where no token of a template is one of the form, both passes do the same.  Where none is known at
all and the extensions hand on what they are shown, the template stays as it is in both. -/
theorem render_eq_renderAmbient (renderer : Renderer) (text : String) (format : Format)
    (request : Request) (hform : ∀ token, .token token ∈ parse text → token.name ∉ formTokens) :
    renderer.render text format request = renderer.renderAmbient text format request ∧
    ((∀ token, .token token ∈ parse text → token.name ∉ ambientTokens) →
      (∀ link ∈ renderer.bus.chain Hook.ambientToken.name, link.implementation.PassesTokens) →
      Yields (renderer.render text format request) text ∧
      Yields (renderer.renderAmbient text format request) text) := by
  have hsame : renderer.render text format request = renderer.renderAmbient text format request :=
    substitute_congr fun token ht => replaceToken_of_notMem (hform token ht)
  refine ⟨hsame, fun hambient hp => ?_⟩
  have hyields : Yields (renderer.renderAmbient text format request) text :=
    yields_substitute fun token ht => yields_replaceAmbient (hambient token ht) hp
  rw [hsame]
  exact ⟨hyields, hyields⟩

/-- A renderer with one extension for ambient tokens. -/
def extended (action : Action) : Renderer where
  bus := Bus.empty.install 0 Hook.ambientToken.name (.ofAction action ["token", "value"] .plain)

/-- An extension with a token of its own. -/
def shopping : Renderer := extended (.claimTokens [("shop", .text "Corner & Co")])

/-- An extension that keeps a list of the tokens that it is shown. -/
def watching : Renderer := extended (.note "seen")

def shopSource : String := "at \x7bshop|a:b\x7d \x7b\x7d"

theorem chain_extended (action : Action) :
    (extended action).bus.chain Hook.ambientToken.name =
      [⟨0, .ofAction action ["token", "value"] .plain⟩] := by
  rfl

theorem passesTokens_note (label : String) :
    (Implementation.ofAction (.note label) ["token", "value"] .plain).PassesTokens :=
  fun _ _ _ _ => ⟨_, rfl⟩

theorem render_eq_renderAmbient_shopSource :
    shopping.render shopSource .url {} = shopping.renderAmbient shopSource .url {} ∧
    ((shopping.renderAmbient shopSource .url {}).perform (guest "")).1 =
      .ok "at Corner+%26+Co \x7b\x7d" ∧
    Yields (watching.render shopSource .url {}) shopSource ∧
    Yields (watching.renderAmbient shopSource .url {}) shopSource := by
  have hnames : ∀ token, .token token ∈ parse shopSource → token.name = "shop" := by
    have hparse : parse shopSource = [.literal "at ",
        .token ⟨"shop", [("a", .given "b")], "\x7bshop|a:b\x7d"⟩, .literal " \x7b\x7d"] := by
      decide +kernel
    intro token ht
    rw [hparse] at ht
    simp only [List.mem_cons, List.not_mem_nil, Segment.token.injEq, reduceCtorEq, false_or,
      or_false] at ht
    rw [ht]
  have hform : ∀ token, .token token ∈ parse shopSource → token.name ∉ formTokens := fun token ht => by
    rw [hnames token ht]
    decide
  have hambient : ∀ token, .token token ∈ parse shopSource → token.name ∉ ambientTokens :=
    fun token ht => by
      rw [hnames token ht]
      decide
  refine ⟨(render_eq_renderAmbient shopping shopSource .url {} hform).1, ?_,
    (render_eq_renderAmbient watching shopSource .url {} hform).2 hambient ?_⟩
  · decide +kernel
  · rw [watching, chain_extended, List.forall_mem_singleton]
    exact passesTokens_note "seen"

end Renderer
end FormIntake
