import EntityForge.Model.Loading
import EntityForge.Proofs.Outcome

/-!
# Ways of loading

A document can be loaded from a text, from a file and from a stream. The three agree: what the bytes
of a file or a stream give is what the text gives that they encode, whatever pieces a stream is cut
into, even within a character. A piece without bytes is the end, and what would come behind it is
not read. Bytes that encode no text are refused by each in its own way. A stream that breaks off
gives its message and nothing else, also where all of a document came before.

A mark of the order of bytes in front of a text makes no difference. It is taken off before the
document is read, so the positions of faults count from behind it.
-/

namespace EntityForge.Model

open Outcome

/-! ### Texts -/

theorem loadText_eq_ok {naming : Naming} {text : String} {entities : List Entity} :
    loadText naming text = .ok entities ↔ ∃ root, Xml.parseDocument (withoutMark text) = .ok root ∧
      entitiesOfDocument naming .standard root = .ok entities := by
  simp only [loadText, bind_eq_ok, parse, extract, mapError_eq_ok]

theorem withoutMark_of_head {text : String} (h : text.toList.head? ≠ some '\uFEFF') :
    withoutMark text = text := by
  unfold withoutMark
  split
  · next heq => rw [heq] at h; exact absurd rfl h
  · rfl

/-- Pieces of text have no mark in front if the first begins with another character. -/
theorem withoutMark_join {first : String} {c : Char} (h : first.toList.head? = some c)
    (hc : c ≠ '\uFEFF') (rest : List String) :
    withoutMark (String.join (first :: rest)) = String.join (first :: rest) := by
  refine withoutMark_of_head fun hmark => hc ?_
  rw [String.toList_join, List.flatMap_cons, List.head?_append, h] at hmark
  exact Option.some.inj hmark

/-- A text with a mark of the order of bytes in front. -/
def marked (text : String) : String :=
  "\uFEFF" ++ text

theorem withoutMark_marked (text : String) : withoutMark (marked text) = text := by
  have hlist : (marked text).toList = '\uFEFF' :: text.toList := by
    rw [marked, String.toList_append]
    rfl
  rw [withoutMark, hlist]
  exact String.ofList_toList

/-- A mark in front of a text that has none is not noticed. -/
theorem loadText_marked (naming : Naming) {text : String}
    (h : text.toList.head? ≠ some '\uFEFF') :
    loadText naming (marked text) = loadText naming text := by
  rw [loadText, loadText, withoutMark_marked, withoutMark_of_head h]

/-! ### Bytes -/

/-- Bytes are read as a text just where they are its bytes. -/
theorem fromUTF8?_eq_some {bytes : ByteArray} {text : String} :
    String.fromUTF8? bytes = some text ↔ text.toUTF8 = bytes := by
  unfold String.fromUTF8?
  split
  · next hvalid =>
    rw [Option.some.injEq]
    constructor
    · rintro rfl
      rfl
    · rintro rfl
      rfl
  · next hinvalid =>
    constructor
    · intro h
      cases h
    · rintro rfl
      exact absurd text.isValidUTF8 hinvalid

theorem fromUTF8?_eq_none {bytes : ByteArray} (h : ∀ text : String, text.toUTF8 ≠ bytes) :
    String.fromUTF8? bytes = none :=
  Option.eq_none_iff_forall_ne_some.mpr fun text htext => h text (fromUTF8?_eq_some.mp htext)

theorem readText_of_find {storage : Storage.Tree} {path : Storage.Path} {bytes : ByteArray}
    (h : storage.find path = .ok (.file bytes)) :
    storage.readText path = Storage.Tree.decode bytes := by
  rw [Storage.Tree.readText, Storage.Tree.readBytes, h]
  rfl

/-- A file gives what its text gives, and is refused if it has none. -/
theorem loadFile_of_find {storage : Storage.Tree} {path : Storage.Path} {bytes : ByteArray}
    (naming : Naming) (h : storage.find path = .ok (.file bytes)) :
    loadFile storage naming path = match String.fromUTF8? bytes with
      | some text => loadText naming text
      | none => .error (.unreadableFile path .notText) := by
  rw [loadFile, readText_of_find h, Storage.Tree.decode]
  cases String.fromUTF8? bytes with
  | none => rfl
  | some text => rfl

/-! ### Streams -/

/-- The bytes that a stream gives up to its end, however it is cut into pieces. -/
def ByteStream.bytes : ByteStream → ByteArray
  | done | broken _ => .empty
  | piece bytes rest => if bytes.isEmpty then .empty else bytes ++ rest.bytes

/-- The message of a stream that breaks off before its end. -/
def ByteStream.fault? : ByteStream → Option String
  | done => none
  | broken message => some message
  | piece bytes rest => if bytes.isEmpty then none else rest.fault?

/-- Reading a stream that ends collects all its bytes. -/
theorem readAll_of_fault?_none {stream : ByteStream} (h : stream.fault? = none)
    (before : ByteArray) : stream.readAll before = .ok (before ++ stream.bytes) := by
  induction stream generalizing before with
  | done => rw [ByteStream.bytes, ByteArray.append_empty]; rfl
  | broken message => cases h
  | piece bytes rest ih =>
    rw [ByteStream.fault?] at h
    rw [ByteStream.readAll, ByteStream.bytes]
    split_ifs at h ⊢ with hend
    · rw [ByteArray.append_empty]
    · rw [ih h, ByteArray.append_assoc]

/-- Reading a stream that breaks off fails, whatever was read before. -/
theorem readAll_of_fault?_some {stream : ByteStream} {message : String}
    (h : stream.fault? = some message) (before : ByteArray) :
    stream.readAll before = .error (.brokenStream message) := by
  induction stream generalizing before with
  | done => cases h
  | broken message' =>
    obtain rfl := Option.some.inj h
    rfl
  | piece bytes rest ih =>
    rw [ByteStream.fault?] at h
    rw [ByteStream.readAll]
    split_ifs at h ⊢ with hend
    exact ih h _

/-- A stream that ends gives what the text of all its bytes gives, and is refused if they have
none. -/
theorem loadStream_of_fault?_none {stream : ByteStream} (naming : Naming)
    (h : stream.fault? = none) :
    loadStream naming stream = match String.fromUTF8? stream.bytes with
      | some text => loadText naming text
      | none => .error .undecodableStream := by
  rw [loadStream, readAll_of_fault?_none h, ByteArray.empty_append]
  rfl

/-- A stream that breaks off gives its message. -/
theorem loadStream_of_fault?_some {stream : ByteStream} {message : String} (naming : Naming)
    (h : stream.fault? = some message) :
    loadStream naming stream = .error (.brokenStream message) := by
  rw [loadStream, readAll_of_fault?_some h]
  rfl

/-! ### The three ways -/

/-- What loading some bytes gives: from every stream that gives these bytes and ends, and from every
file that has them, by its path. -/
structure Loads (naming : Naming) (bytes : ByteArray)
    (fromStream : Except LoadError (List Entity))
    (fromFile : Storage.Path → Except LoadError (List Entity)) : Prop where
  /-- All streams of these bytes give the same. -/
  stream : ∀ stream : ByteStream, stream.bytes = bytes → stream.fault? = none →
    loadStream naming stream = fromStream
  /-- All files of these bytes give the same, but for the path. -/
  file : ∀ storage path, Storage.Tree.find storage path = .ok (.file bytes) →
    loadFile storage naming path = fromFile path

/-- The bytes of a text load as the text does. -/
theorem loads_toUTF8 (naming : Naming) (text : String) :
    Loads naming text.toUTF8 (loadText naming text) fun _ => loadText naming text := by
  have hdecoded : String.fromUTF8? text.toUTF8 = some text := fromUTF8?_eq_some.mpr rfl
  constructor
  · intro stream hbytes hfault
    rw [loadStream_of_fault?_none naming hfault, hbytes, hdecoded]
  · intro storage path hfile
    rw [loadFile_of_find naming hfile, hdecoded]

/-- Bytes that are no text are refused, of a file with its path. -/
theorem loads_of_undecodable (naming : Naming) {bytes : ByteArray}
    (h : ∀ text : String, text.toUTF8 ≠ bytes) :
    Loads naming bytes (.error .undecodableStream) fun path =>
      .error (.unreadableFile path .notText) := by
  have hdecoded := fromUTF8?_eq_none h
  constructor
  · intro stream hbytes hfault
    rw [loadStream_of_fault?_none naming hfault, hbytes, hdecoded]
  · intro storage path hfile
    rw [loadFile_of_find naming hfile, hdecoded]

/-- Loading from a file or a stream is loading from the text whose bytes it has, however the stream
is cut into pieces. Bytes of no text are refused, and so is a stream that breaks off, wherever it
does. A mark in front of a text that has none changes nothing, whichever way is taken. -/
theorem loads_alike (naming : Naming) :
    (∀ text : String,
        Loads naming text.toUTF8 (loadText naming text) fun _ => loadText naming text) ∧
      (∀ bytes, (∀ text : String, text.toUTF8 ≠ bytes) →
        Loads naming bytes (.error .undecodableStream) fun path =>
          .error (.unreadableFile path .notText)) ∧
      (∀ stream message, ByteStream.fault? stream = some message →
        loadStream naming stream = .error (.brokenStream message)) ∧
      ∀ text : String, text.toList.head? ≠ some '\uFEFF' →
        loadText naming (marked text) = loadText naming text ∧
        Loads naming (marked text).toUTF8 (loadText naming text) fun _ => loadText naming text := by
  refine ⟨loads_toUTF8 naming, fun bytes => loads_of_undecodable naming,
    fun stream message => loadStream_of_fault?_some naming, fun text hhead => ?_⟩
  have hmarked := loadText_marked naming hhead
  refine ⟨hmarked, ?_⟩
  rw [← hmarked]
  exact loads_toUTF8 naming (marked text)

/-- A stream that is cut within a letter of two bytes, and what follows its end. -/
def cutStream (ending : ByteStream) : ByteStream :=
  .piece ⟨#[0x3C, 0xC3]⟩ (.piece ⟨#[0xA9, 0x2F, 0x3E]⟩ ending)

/-- A file with the same bytes. -/
def letterStorage : Storage.Tree :=
  { entries := [(["a.pdm"], .file ⟨#[0x3C, 0xC3, 0xA9, 0x2F, 0x3E]⟩)] }

/-- The cut stream and the file give what the text gives, with or without a mark, and a broken
stream gives its message, unless it ended before. The first byte of the letter alone is refused. -/
theorem loads_cutStream :
    loadStream {} (cutStream .done) = loadText {} "<é/>" ∧
      loadStream {} (cutStream (.piece .empty (.broken "stream broken"))) = loadText {} "<é/>" ∧
      loadFile letterStorage {} ⟨"a.pdm"⟩ = loadText {} "<é/>" ∧
      loadText {} (marked "<é/>") = loadText {} "<é/>" ∧
      loadStream {} (cutStream (.broken "stream broken")) = .error (.brokenStream "stream broken") ∧
      loadStream {} (.piece ⟨#[0xC3]⟩ .done) = .error .undecodableStream := by
  obtain ⟨htext, hnone, hbroken, hmark⟩ := loads_alike {}
  have hbytes : "<é/>".toUTF8 = ⟨#[0x3C, 0xC3, 0xA9, 0x2F, 0x3E]⟩ := by decide
  have hloads := htext "<é/>"
  rw [hbytes] at hloads
  refine ⟨hloads.stream _ (by decide) rfl, hloads.stream _ (by decide) rfl,
    hloads.file letterStorage ⟨"a.pdm"⟩ ?_,
    (hmark "<é/>" (by decide)).1, hbroken _ _ rfl, ?_⟩
  · rfl
  · refine (hnone ⟨#[0xC3]⟩ fun text h => ?_).stream _ (by decide) rfl
    have hdecoded := fromUTF8?_eq_some.mpr h
    rw [show String.fromUTF8? ⟨#[0xC3]⟩ = none by decide] at hdecoded
    cases hdecoded

end EntityForge.Model
