/-
Rendering templates over JSON values. A tag whose value is not there stops the rendering, except
that a condition takes it for false.
-/
import UiSkeleton.Template.Basic

namespace UiSkeleton

/-- The entity of a character that has a meaning in HTML. -/
def htmlEntity : Char → List Char
  | '<' => "&lt;".toList
  | '>' => "&gt;".toList
  | '"' => "&quot;".toList
  | '&' => "&amp;".toList
  | '\'' => "&#x27;".toList
  | '\x60' => "&#x60;".toList
  | '=' => "&#x3D;".toList
  | c => [c]

/-- The text with its characters escaped. -/
def Escaping.apply : Escaping → List Char → List Char
  | .raw, cs => cs
  | .html, cs => cs.flatMap htmlEntity

namespace JsonValue

mutual

/-- How a value stands in a rendered text. -/
def display : JsonValue → List Char
  | .null => []
  | .bool true => "true".toList
  | .bool false => "false".toList
  | .number n => n.text.toList
  | .string s => s.toList
  | .array items => '[' :: displayItems items ++ [']']
  | .object _ => "[object]".toList

/-- The items of a list with commas between them. -/
def displayItems : List JsonValue → List Char
  | [] => []
  | [v] => v.display
  | v :: w :: rest => v.display ++ ", ".toList ++ displayItems (w :: rest)

end

/-- Whether a value counts as true in a condition. -/
def counts : JsonValue → Bool
  | .null => false
  | .bool b => b
  | .number n => !n.isZero
  | .string s => !s.isEmpty
  | .array items => !items.isEmpty
  | .object members => !members.isEmpty

/-- The value under a key: a member of an object or, by its position, an item of a list. -/
def child? (key : String) : JsonValue → Option JsonValue
  | .object members => members.lookup key
  | .array items =>
    let digits := key.toList
    if !digits.isEmpty && digits.all Char.isDigit then items[Binary64.digitsValue digits]? else none
  | _ => none

/-- The value that a way of keys leads to. -/
def follow? (v : JsonValue) : List String → Option JsonValue
  | [] => some v
  | key :: keys => (v.child? key).bind fun w => w.follow? keys

/-- The values that a repetition goes through; `none` for a value that has no items. -/
def items? : JsonValue → Option (List JsonValue)
  | .array items => some items
  | .object members => some (members.map Prod.snd)
  | _ => none

end JsonValue

namespace Template

/-- The texts of all results, or the first error. -/
def joinAll : List (Except TemplateTag (List Char)) → Except TemplateTag (List Char)
  | [] => .ok []
  | .error tag :: _ => .error tag
  | .ok cs :: rest => (joinAll rest).map (cs ++ ·)

/-- The text of a template for the current value, or the tag whose value is not there. -/
def render (escaping : Escaping) : Template → JsonValue → Except TemplateTag (List Char)
  | .done, _ => .ok []
  | .text cs next, v => (next.render escaping v).map (cs ++ ·)
  | .value tag raw next, v =>
    match v.follow? tag.keys with
    | none => .error tag
    | some w =>
      let cs := if raw then w.display else escaping.apply w.display
      (next.render escaping v).map (cs ++ ·)
  | .choose tag yes no next, v => do
    let cs ← if (v.follow? tag.keys).any JsonValue.counts then yes.render escaping v
      else no.render escaping v
    (next.render escaping v).map (cs ++ ·)
  | .each tag body hasOther other next, v => do
    let cs ← match (v.follow? tag.keys).bind JsonValue.items? with
      | some (w :: ws) => joinAll ((w :: ws).map (body.render escaping))
      | some [] => if hasOther then other.render escaping v else .ok []
      | none => if hasOther then other.render escaping v else .error tag
    (next.render escaping v).map (cs ++ ·)

end Template
end UiSkeleton
