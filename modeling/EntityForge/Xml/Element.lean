/-!
# Element trees

An element has a name, attributes, child elements and text; the order of attributes and children is
that of the document. Look-ups go by local name and take the first match: among the attributes,
among the children, or among all elements below, in the order of their start tags.
-/

namespace EntityForge.Xml

/-- An element of a document. -/
structure Element where
  /-- The local name. -/
  name : String
  /-- The attributes by local name, in document order. -/
  attributes : List (String × String) := []
  /-- The child elements, in document order. -/
  children : List Element := []
  /-- The text directly inside the element, trimmed. -/
  text : String := ""
  deriving Repr

namespace Element

mutual

/-- Whether two elements are the same. -/
def decEq : (a b : Element) → Decidable (a = b)
  | ⟨n, as, cs, t⟩, ⟨n', as', cs', t'⟩ =>
    match decEqAll cs cs' with
    | isTrue h => decidable_of_iff (n = n' ∧ as = as' ∧ t = t') (by simp [h])
    | isFalse h => isFalse (by simp [h])

/-- Whether two lists of elements are the same. -/
def decEqAll : (as bs : List Element) → Decidable (as = bs)
  | [], [] => isTrue rfl
  | [], _ :: _ => isFalse nofun
  | _ :: _, [] => isFalse nofun
  | a :: as, b :: bs =>
    match decEq a b, decEqAll as bs with
    | isTrue h, isTrue h' => isTrue (by rw [h, h'])
    | isFalse h, _ => isFalse (by simp [h])
    | _, isFalse h => isFalse (by simp [h])

end

instance : DecidableEq Element := decEq

/-- The value of the first attribute of a name. -/
def attribute? (e : Element) (name : String) : Option String :=
  (e.attributes.find? fun a => a.1 == name).map (·.2)

/-- The first child of a name. -/
def child? (e : Element) (name : String) : Option Element :=
  e.children.find? fun c => c.name == name

/-- The children of a name. -/
def childrenNamed (e : Element) (name : String) : List Element :=
  e.children.filter fun c => c.name == name

/-- The text of the first child of a name. An empty child has the empty text. -/
def childText? (e : Element) (name : String) : Option String :=
  (e.child? name).map (·.text)

mutual

/-- The first element of a name below an element, in document order. -/
def descendant? (e : Element) (name : String) : Option Element :=
  match e with
  | ⟨_, _, children, _⟩ => firstAmong children name

/-- The first element of a name among some elements and all those below them, in document order. -/
def firstAmong (es : List Element) (name : String) : Option Element :=
  match es with
  | [] => none
  | e :: rest =>
    if e.name == name then some e
    else (e.descendant? name).or (firstAmong rest name)

end

mutual

/-- All elements below an element, in document order. -/
def descendants (e : Element) : List Element :=
  match e with
  | ⟨_, _, children, _⟩ => preorder children

/-- Some elements and all those below them, in document order. -/
def preorder (es : List Element) : List Element :=
  match es with
  | [] => []
  | e :: rest => e :: (e.descendants ++ preorder rest)

end

end Element

end EntityForge.Xml
