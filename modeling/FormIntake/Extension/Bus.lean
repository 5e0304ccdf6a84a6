import FormIntake.Extension.Hook
import FormIntake.Extension.Implementation

/-! # The hook bus

A `Bus` keeps the names of the plugins that are registered and, for each hook, the chain of their
implementations.  `Bus.run` threads a subject through the chain of a hook: first the
implementations that want to be first, then the plain ones, then those that want to be last.
-/

namespace FormIntake

/-- A plugin: its identity and its implementations by the names of their hooks.  An implementation is a
method that has the name of its hook, so a plugin has one of a hook at most. -/
structure Plugin where
  id : Nat
  implementations : List (String × Implementation)
  once : (implementations.map Prod.fst).Nodup

/-- A plugin with some methods, of which a later one takes the place of an earlier one of its name. -/
def Plugin.ofMethods (id : Nat) (methods : List (String × Implementation)) : Plugin where
  id
  implementations := Assoc.ofList methods
  once := Assoc.nodup_keys_ofList methods

/-- An implementation in a chain with the plugin that it belongs to. -/
structure Link where
  owner : Nat
  implementation : Implementation

namespace Link

def mode (link : Link) : Mode := link.implementation.mode

end Link

abbrev Chain := List Link

namespace Chain

/-- The part of a chain before its wrappers. -/
def inner (chain : Chain) : Chain := chain.takeWhile (·.mode ≠ .wrapper)

/-- The wrappers, which stand at the end. -/
def wrappers (chain : Chain) : Chain := chain.dropWhile (·.mode ≠ .wrapper)

/-- The chain up to the links at its end that want to be first. -/
def body (chain : Chain) : Chain := (chain.reverse.dropWhile (·.mode = .first)).reverse

/-- The links at the end of the chain that want to be first. -/
def firsts (chain : Chain) : Chain := (chain.reverse.takeWhile (·.mode = .first)).reverse

/-- The chain with one more link: one that wants to be last goes to the front, one that wants to be
first to the end, a plain one before those at the end that want to be first, and a wrapper behind
all others. -/
def insert (chain : Chain) (link : Link) : Chain :=
  match link.mode with
  | .last => link :: chain
  | .first => chain.inner ++ link :: chain.wrappers
  | .plain => chain.inner.body ++ link :: chain.inner.firsts ++ chain.wrappers
  | .wrapper => chain ++ [link]

/-- The links in the order in which they are called. -/
def order (chain : Chain) : Chain :=
  chain.filter (·.mode = .first) ++
    chain.filter (fun link => link.mode = .plain || link.mode = .wrapper) ++
    (chain.filter (·.mode = .last)).reverse

/-- The chain without the first link of a plugin. -/
def remove (chain : Chain) (owner : Nat) : Chain := chain.eraseP (·.owner = owner)

theorem inner_append_wrappers (chain : Chain) : chain.inner ++ chain.wrappers = chain :=
  List.takeWhile_append_dropWhile

theorem body_append_firsts (chain : Chain) : chain.body ++ chain.firsts = chain := by
  rw [body, firsts, ← List.reverse_append, List.takeWhile_append_dropWhile, List.reverse_reverse]

end Chain

structure Bus where
  /-- The registered plugins by name. -/
  names : List (String × Nat) := []
  /-- The chains by the names of their hooks. -/
  chains : List (String × Chain) := Hook.all.map fun hook => (hook.name, [])

namespace Bus

/-- A bus without plugins. -/
def empty : Bus := {}

def chain (bus : Bus) (hook : String) : Chain := (bus.chains.lookup hook).getD []

def isRegistered (bus : Bus) (plugin : Nat) : Bool := bus.names.any (·.2 = plugin)

/-- Whether an implementation asks only for what its hook offers; a hook that is not known offers
anything. -/
def fits (hook : String) (implementation : Implementation) : Bool :=
  match Hook.ofName? hook with
  | some known => implementation.arguments.all known.arguments.contains
  | none => true

def install (bus : Bus) (owner : Nat) (hook : String) (implementation : Implementation) : Bus :=
  { bus with chains := Assoc.put hook ((bus.chain hook).insert ⟨owner, implementation⟩) bus.chains }

/-- The bus with implementations installed one by one, none of them if one does not fit. -/
def installAll (bus : Bus) (owner : Nat) : List (String × Implementation) → Option Bus
  | [] => some bus
  | (hook, implementation) :: rest =>
    if fits hook implementation then (bus.install owner hook implementation).installAll owner rest
    else none

/-- The hooks in whose chains a plugin has a wrapper. -/
def wrapped (bus : Bus) (owner : Nat) : List String :=
  (bus.chains.filter fun (_, chain) =>
    chain.any fun link => link.owner = owner && link.mode = .wrapper).map Prod.fst

/-- The bus without a plugin. -/
def remove (bus : Bus) (plugin : Nat) : Bus where
  names := bus.names.filter (·.2 ≠ plugin)
  chains := bus.chains.map fun (hook, chain) => (hook, chain.remove plugin)

/-- Register a plugin under a name that is free.  Its implementations are installed in the
alphabetical order of their hooks.  A plugin with one that does not fit is turned away before anything
of it is kept, and a plugin with wrappers, which are not supported, is taken back. -/
def register (bus : Bus) (plugin : Plugin) (name : String) : Bus × Except Failure Unit :=
  if (bus.names.lookup name).isSome || bus.isRegistered plugin.id then
    (bus, .error .registeredTwice)
  else
    let named := { bus with names := bus.names ++ [(name, plugin.id)] }
    let sorted := plugin.implementations.mergeSort fun a b => a.1 ≤ b.1
    match named.installAll plugin.id sorted with
    | none => (bus, .error .unfitImplementation)
    | some installed =>
      match installed.wrapped plugin.id with
      | [] => (installed, .ok ())
      | hooks => (installed.remove plugin.id, .error (.wrappers hooks))

def unregister (bus : Bus) (plugin : Nat) : Except Failure Bus :=
  if bus.isRegistered plugin then .ok (bus.remove plugin) else .error .notRegistered

/-- Thread a subject through the implementations of a hook. -/
def run (bus : Bus) (hook : Hook) (subject : Subject) (arguments : Arguments) : Work Subject :=
  (bus.chain hook.name).order.foldlM
    (fun subject link => link.implementation.call (("value", .given subject) :: arguments)) subject

/-- Thread a subject through a hook that is handed the form. -/
def filter (bus : Bus) (hook : Hook) (subject : Subject) : Work Subject :=
  bus.run hook subject [("form", .form)]

/-- What a chain that was started with null ends on: nothing, or a reply that ends the
submission. -/
def verdict (hook : Hook) : Subject → Except Failure (Option Reply)
  | .reply r => .ok (some r)
  | subject =>
    if subject.isTruthy then .error (.noResult hook.name subject.kindName) else .ok none

/-- Ask a hook of a stage whether the submission ends here. -/
def veto (bus : Bus) (hook : Hook) : Work (Option Reply) := do
  let subject ← bus.filter hook .null
  (verdict hook subject : Except Failure _)

/-! ### Without implementations -/

/-- No hook has an implementation. -/
def Idle (bus : Bus) : Prop := ∀ hook : Hook, bus.chain hook.name = []

theorem idle_empty : empty.Idle := by
  intro hook
  cases hook <;> decide

namespace Idle

variable {bus : Bus} (h : bus.Idle) (hook : Hook)

include h

/-- With nothing registered a hook leaves its subject as it is. -/
theorem run (subject : Subject) (arguments : Arguments) :
    bus.run hook subject arguments = pure subject := by
  simp [Bus.run, h hook, Chain.order]

theorem filter (subject : Subject) : bus.filter hook subject = pure subject := h.run hook subject _

/-- With nothing registered nothing ends a submission. -/
theorem veto : bus.veto hook = pure none := by
  rw [Bus.veto, h.filter]
  rfl

end Idle

end Bus
end FormIntake
