import Phrasebook.Text.Class

/-!
# Templates

A template is text with holes, each of which is a key between two opening and two closing
braces. `Template.read` finds the holes from left to right; `Template.source` writes the
template down again, and `source_read` says that reading loses nothing. An opening that is
never closed ends the template: what stands behind it is kept apart and means nothing.

The key of a hole is a plain key or a directive, which chooses between keys.
-/

namespace Phrasebook

/-- Text with holes. -/
inductive Template where
  /-- Text up to the end. -/
  | ends (lead : Text)
  /-- Text, then an opening that is never closed and what stands behind it. -/
  | unclosed (lead tail : Text)
  /-- Text, then a hole with its key, then the rest. -/
  | hole (lead key : Text) (rest : Template)
  deriving DecidableEq, Repr

namespace Template

/-- A character before the text at the front. -/
def consLead (c : Char) : Template → Template
  | ends lead => ends (c :: lead)
  | unclosed lead tail => unclosed (c :: lead) tail
  | hole lead key rest => hole (c :: lead) key rest

/-- What follows an opening: a key that is closed, or the rest of the template. -/
inductive Opened where
  | closed (key : Text) (rest : Template)
  | unclosed (tail : Text)

/-- A character before the key. -/
def Opened.consKey (c : Char) : Opened → Opened
  | closed key rest => closed (c :: key) rest
  | unclosed tail => unclosed (c :: tail)

/-- The template that starts with an opening. -/
def ofOpened : Opened → Template
  | .closed key rest => hole [] key rest
  | .unclosed tail => unclosed [] tail

mutual

/-- Read text outside of holes. -/
def read : Text → Template
  | [] => ends []
  | '{' :: '{' :: rest => ofOpened (readKey rest)
  | c :: rest => consLead c (read rest)

/-- Read a key up to the first two closing braces. -/
def readKey : Text → Opened
  | [] => .unclosed []
  | '}' :: '}' :: rest => .closed [] (read rest)
  | c :: rest => (readKey rest).consKey c

end

/-- The text that a template is written as. -/
def source : Template → Text
  | ends lead => lead
  | unclosed lead tail => lead ++ '{' :: '{' :: tail
  | hole lead key rest => lead ++ '{' :: '{' :: key ++ '}' :: '}' :: source rest

/-- The text that an opened key is written as. -/
def Opened.source : Opened → Text
  | closed key rest => key ++ '}' :: '}' :: rest.source
  | unclosed tail => tail

@[simp] theorem source_consLead (c : Char) (t : Template) :
    (consLead c t).source = c :: t.source := by
  cases t <;> rfl

@[simp] theorem Opened.source_consKey (c : Char) (o : Opened) :
    (o.consKey c).source = c :: o.source := by
  cases o <;> rfl

@[simp] theorem source_ofOpened (o : Opened) :
    (ofOpened o).source = '{' :: '{' :: o.source := by
  cases o <;> rfl

mutual

/-- Reading a template loses nothing. -/
theorem source_read (s : Text) : (read s).source = s := by
  unfold read
  split
  · rfl
  · next rest => rw [source_ofOpened, source_readKey rest]
  · next c rest _ => rw [source_consLead, source_read rest]

/-- Reading an opened key loses nothing. -/
theorem source_readKey (s : Text) : (readKey s).source = s := by
  unfold readKey
  split
  · rfl
  · next rest => simp [Opened.source, source_read rest]
  · next c rest _ => rw [Opened.source_consKey, source_readKey rest]

end

end Template

/-- What the text of a hole asks for. -/
inductive Directive where
  /-- The value of a key. -/
  | key (key : Text)
  /-- The value of one of two keys, or of one key or nothing, by a condition. -/
  | choose (condition whenTrue : Text) (whenFalse : Option Text)
  /-- A choice with too few parts, which asks for nothing. -/
  | nothing
  deriving DecidableEq, Repr

namespace Directive

/-- The word that a choice starts with. -/
def word : Text := ['i', 'f']

/-- Read the text of a hole. It is a choice when it starts with the word `if` and has at
least three parts between colons, or when its first part is that word alone; at most the
first three colons count. -/
def read (raw : Text) : Directive :=
  let text := Text.trim raw
  let parts := Text.splitAtMost ':' 3 text
  if word.isPrefixOf text && (3 ≤ parts.length || (parts.head?.map Text.trim) == some word) then
    match parts with
    | [_, condition, whenTrue] => .choose condition (Text.trim whenTrue) none
    | [_, condition, whenTrue, whenFalse] =>
      .choose condition (Text.trim whenTrue) (some (Text.trim whenFalse))
    | _ => .nothing
  else .key text

end Directive

end Phrasebook
