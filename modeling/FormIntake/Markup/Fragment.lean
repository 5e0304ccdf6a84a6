import FormIntake.Markup.Escape

/-! # Markup in fragments

Markup is put together of fragments: some are markup already and some are texts that are escaped
where they are written.
-/

namespace FormIntake.Markup

inductive Fragment where
  /-- Markup, which is written as it is. -/
  | markup (source : String)
  /-- A text, which is escaped. -/
  | text (s : String)
  deriving DecidableEq, Repr

namespace Fragment

def written : Fragment → String
  | .markup source => source
  | .text s => escaped s

end Fragment

/-- Fragments written one after the other. -/
def write (fragments : List Fragment) : String := String.join (fragments.map Fragment.written)

theorem write_cons (fragment : Fragment) (fragments : List Fragment) :
    write (fragment :: fragments) = fragment.written ++ write fragments := by
  rw [write, List.map_cons, String.join_cons, write]

theorem write_append (fragments others : List Fragment) :
    write (fragments ++ others) = write fragments ++ write others := by
  rw [write, List.map_append, String.join_append, write, write]

theorem write_flatMap {α : Type} (f : α → List Fragment) (as : List α) :
    write (as.flatMap f) = String.join (as.map fun a => write (f a)) := by
  induction as with
  | nil => rfl
  | cons a as ih => rw [List.flatMap_cons, write_append, ih, List.map_cons, String.join_cons]

end FormIntake.Markup
