import EntityForge.Xml.Reference

/-!
# Tags

The content of a start tag is a qualified name followed by attributes. Elements and attributes are
known by their local names, what follows the first colon; attributes that declare a namespace are
passed over. Positions in faults count bytes from the start of the content.
-/

namespace EntityForge.Xml

/-- Whether a character is white space of the markup. -/
def isSpace (c : Char) : Bool :=
  c == ' ' || c == '\t' || c == '\n' || c == '\r'

/-- The part of a qualified name after its first colon, or all of it if it has none. -/
def localName (name : List Char) : List Char :=
  match name.dropWhile (· != ':') with
  | [] => name
  | _ :: rest => rest

/-- Whether an attribute key declares a namespace. -/
def declaresNamespace (key : List Char) : Bool :=
  match key with
  | 'x' :: 'm' :: 'l' :: 'n' :: 's' :: rest => rest.isEmpty || rest.head? == some ':'
  | _ => false

/-- Whether a character can stand in an attribute key after its first character. -/
def inKey (c : Char) : Bool :=
  c != '=' && !isSpace c

/-- The qualified name at the head of a tag's content. -/
def tagName (tag : List Char) : List Char :=
  tag.takeWhile fun c => !isSpace c

/-- The attribute that a key and a written value make, unless the key declares a namespace. -/
def attribute? (key value : List Char) : Except Fault (Option (String × String)) :=
  if declaresNamespace key then .ok none
  else (resolveValue value).map fun text =>
    some (String.ofList (localName key), String.ofList text)

/-- The attributes of a tag, read from a position of its content on. `size` is the length of the
content, and `seen` holds the keys met so far with their places. -/
def attributesFrom (size position : Nat) (seen : List (List Char × Nat)) (cs : List Char) :
    Except Fault (List (String × String)) :=
  let start := position + byteLength (cs.takeWhile isSpace)
  match _hk : cs.dropWhile isSpace with
  | [] => .ok []
  | k :: ks =>
    let key := k :: ks.takeWhile inKey
    let keyStop := start + byteLength key
    let gap := (ks.dropWhile inKey).takeWhile isSpace
    match _he : (ks.dropWhile inKey).dropWhile isSpace with
    | '=' :: afterEquals =>
      match seen.find? (·.1 == key) with
      | some (_, previous) => .error (.duplicateKey start previous)
      | none =>
        let valueGap := afterEquals.takeWhile isSpace
        let quoteAt := keyStop + byteLength gap + 1 + byteLength valueGap
        match _hq : afterEquals.dropWhile isSpace with
        | [] => .error (.missingValue size)
        | quote :: quoted =>
          if quote = '"' ∨ quote = '\'' then
            let value := quoted.takeWhile (· != quote)
            match _hv : quoted.dropWhile (· != quote) with
            | [] => .error (.unclosedQuote size quote)
            | _ :: rest => do
              let here ← attribute? key value
              let others ← attributesFrom size (quoteAt + 1 + byteLength value + 1)
                ((key, start) :: seen) rest
              return here.toList ++ others
          else .error (.unquotedValue quoteAt)
    | _ => .error (.keyWithoutEquals (keyStop + byteLength gap))
  termination_by cs.length
  decreasing_by
    have h₁ := (List.dropWhile_sublist isSpace (l := cs)).length_le
    have h₂ := (List.dropWhile_sublist isSpace (l := ks.dropWhile inKey)).length_le
    have h₃ := (List.dropWhile_sublist inKey (l := ks)).length_le
    have h₄ := (List.dropWhile_sublist isSpace (l := afterEquals)).length_le
    have h₅ := (List.dropWhile_sublist (· != quote) (l := quoted)).length_le
    rw [_hk] at h₁
    rw [_he] at h₂
    rw [_hq] at h₄
    rw [_hv] at h₅
    simp only [List.length_cons] at h₁ h₂ h₄ h₅
    omega

/-- The attributes of a tag, in order, by local name and with their references resolved. -/
def attributes (tag : List Char) : Except Fault (List (String × String)) :=
  attributesFrom (byteLength tag) (byteLength (tagName tag)) [] (tag.drop (tagName tag).length)

end EntityForge.Xml
