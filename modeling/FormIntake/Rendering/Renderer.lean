import FormIntake.Extension.Bus
import FormIntake.Installation.Settings
import FormIntake.Calendar.Stamp
import FormIntake.Calendar.Zone
import FormIntake.Template.Format

/-! # The renderer

What templates are rendered with beside a form and a request: the settings of the installation, the
extensions, the contents that show forms, the time, and a random draw.
-/

namespace FormIntake

open Calendar Number

/-- What is known of contents by their numbers: properties and fields of the site's own. -/
structure Contents where
  properties : List (Int × List (String × Value)) := []
  fields : List (Int × List (String × Value)) := []

namespace Contents

/-- A fact about a content; an unknown one is empty. -/
def fact (facts : List (Int × List (String × Value))) (content : Option Int) (name : String) :
    Value :=
  ((content.bind fun id => facts.lookup id).bind fun known => known.lookup name).getD (.text "")

end Contents

structure Renderer where
  settings : Installation.Settings := {}
  bus : Bus := .empty
  contents : Option Contents := none
  now : DateTime := startOf2024
  /-- A number between zero and one. -/
  draw : Binary64 := .ofRatio false 1 2

namespace Renderer

/-- The zone that times are shown in. -/
def zone (renderer : Renderer) : Zone :=
  (Zone.ofName? renderer.settings.site.timezone).getD Zone.universal

/-- A property of a content as a text, if it has one. -/
def contentProperty (renderer : Renderer) (content : Option Int) (name : String) :
    Except Failure String :=
  match renderer.contents with
  | some contents => (Subject.data (Contents.fact contents.properties content name)).plain
  | none => .ok ""

/-- A field of a content as a text, if it has one. -/
def contentField (renderer : Renderer) (content : Option Int) (name : String) :
    Except Failure String :=
  match renderer.contents with
  | some contents => (Subject.data (Contents.fact contents.fields content name)).plain
  | none => .ok ""

/-- A name made of a text and the time, with ten times the draw behind it if it is asked for. -/
def uniqueId (renderer : Renderer) (start : String) (withDraw : Bool) : String :=
  let drawn := if withDraw then (renderer.draw.mul (.ofInt 10)).fixed 8 else []
  String.ofList (start.toList ++ renderer.now.stamp ++ drawn)

end Renderer
end FormIntake
