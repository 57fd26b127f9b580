/-
# Responses

A reply of the engine, in terms that every channel understands: a text, quick replies, an image
and an attachment, each of them optional.
-/
import Switchboard.Message.Button
import Switchboard.Json.Printer

namespace Switchboard

/-- A reply, whatever channel it goes out on. -/
structure Response where
  text : Option String := none
  image : Option String := none
  buttons : List Button := []
  attachment : Option Json := none

namespace Response

/-- A reply of text alone. -/
def ofText (s : String) : Response := { text := some s }

/-- Offers more buttons, after those that are offered already. -/
def withButtons (r : Response) (bs : List Button) : Response :=
  { r with buttons := r.buttons ++ bs }

/-- Shows an image, in the place of any other. -/
def withImage (r : Response) (url : String) : Response := { r with image := some url }

/-- Carries an attachment, in the place of any other. -/
def withAttachment (r : Response) (v : Json) : Response := { r with attachment := some v }

/-- A member that is left out where there is nothing to say. -/
def member (key : String) : Option Json → List (String × Json)
  | some v => [(key, v)]
  | none => []

/-- The object that stands for a response; what is missing or empty is left out. -/
def toJson (r : Response) : Json :=
  .object <|
    member "text" (r.text.map .text) ++
    member "image" (r.image.map .text) ++
    (if r.buttons.isEmpty then [] else [("buttons", .array (r.buttons.map Button.toJson))]) ++
    member "attachment" r.attachment

/-- The nesting left for an attachment inside a response. -/
def attachmentNesting : Nat := Json.maxNesting - 1

/-- Reads a response as written; an attachment of null is none. -/
def ofTerm? (t : Json.Term) : Option Response :=
  match Record.slots? [["text"], ["image"], ["buttons"], ["attachment"]] t with
  | some [text, image, buttons, attachment] => do
    let text ← text.omissible Record.Source.text?
    let image ← image.omissible Record.Source.text?
    let buttons ← buttons.orDefault [] (Record.listOf? Button.ofSource?)
    let attachment ← attachment.omissible (Json.Term.toJson? attachmentNesting)
    some ⟨text, image, buttons, attachment⟩
  | _ => none

/-- Reads the text of a response. -/
def read? (s : List Char) : Option Response := (Json.Term.read? s).bind ofTerm?

end Response
end Switchboard
