import EntityForge.Generation.Settings
import EntityForge.Proofs.Toml.Documents
import Mathlib.Data.List.Perm.Basic

/-!
# Settings read back

The text of settings is read as these settings again, whatever texts and paths they have. The
members of the text are read in the order of their names and not in the one that they are written
in; the order makes no difference, since each of them sets a value of its own.
-/

namespace EntityForge.Generation.Settings

open Toml (Entry Members Placed Span)

/-! ### The document of settings -/

/-- The lines of the file. -/
def entries (s : Settings) : List Entry :=
  [⟨"table_prefix", .text s.tablePrefix, ⟨by decide, by decide⟩⟩,
    ⟨"package", .text s.package, ⟨by decide, by decide⟩⟩,
    ⟨"template", .text s.style.name, ⟨by decide, by decide⟩⟩] ++
  (s.templateFile.map fun path =>
    ⟨"template_file", .text path.text, ⟨by decide, by decide⟩⟩).toList ++
  [⟨"source_root", .text s.sourceRoot.text, ⟨by decide, by decide⟩⟩,
    ⟨"output_dir", .text s.outputDir.text, ⟨by decide, by decide⟩⟩,
    ⟨"overwrite", .truth s.overwrite, ⟨by decide, by decide⟩⟩]

theorem text_eq_document (s : Settings) : s.text = Toml.document s.entries := by
  rw [text, members, Toml.document, entries]
  cases s.templateFile <;> rfl

/-- The names of the members are the known ones, but for that of a template file there is not. -/
theorem map_name_entries (s : Settings) : (s.entries.map Entry.name).Sublist names := by
  rw [entries]
  cases s.templateFile with
  | none => exact (List.sublist_cons_self "template_file" _).append_left (names.take 3)
  | some path => exact .refl names

theorem nodup_names (s : Settings) : (s.entries.map Entry.name).Nodup :=
  (map_name_entries s).nodup (by decide)

/-! ### Members read in any order -/

/-- Settings with the value of a name taken from others. -/
def taking (s t : Settings) (name : String) : Settings where
  tablePrefix := if name = "table_prefix" then s.tablePrefix else t.tablePrefix
  package := if name = "package" then s.package else t.package
  style := if name = "template" then s.style else t.style
  templateFile := if name = "template_file" then s.templateFile else t.templateFile
  sourceRoot := if name = "source_root" then s.sourceRoot else t.sourceRoot
  outputDir := if name = "output_dir" then s.outputDir else t.outputDir
  overwrite := if name = "overwrite" then s.overwrite else t.overwrite

/-- A member of the file sets the value of its name. -/
theorem withMember_entry {s : Settings} {e : Entry} (he : e ∈ s.entries) (t : Settings)
    (span : Span) : t.withMember e.name span e.value.value = .ok (s.taking t e.name) := by
  obtain ⟨_, _, style, templateFile, _, _, _⟩ := s
  simp only [entries, List.mem_append, List.mem_cons, List.not_mem_nil, or_false,
    Option.mem_toList, Option.map_eq_some_iff] at he
  rcases he with ((rfl | rfl | rfl) | ⟨path, rfl, rfl⟩) | rfl | rfl | rfl
  · rfl
  · rfl
  · cases style <;> rfl
  · rfl
  · rfl
  · rfl
  · rfl

/-- Values of several names are taken in any order. -/
instance rightCommutative_taking (s : Settings) : RightCommutative s.taking where
  right_comm t name name' := by
    have hcomm {α : Type} {p q : Prop} [Decidable p] [Decidable q] (a b : α) :
        (if q then a else if p then a else b) = if p then a else if q then a else b := by
      split_ifs <;> rfl
    rw [taking, Settings.mk.injEq]
    exact ⟨hcomm .., hcomm .., hcomm .., hcomm .., hcomm .., hcomm .., hcomm ..⟩

/-- Members of the file, in whatever order, set the values of their names. -/
theorem withMembers_eq {s : Settings} {ms : Members}
    (hms : ∀ m ∈ ms, ∃ e : Placed, e.toEntry ∈ s.entries ∧ e.member = m) (t : Settings) :
    withMembers t ms = .ok ((ms.map (·.1.2)).foldl s.taking t) := by
  induction ms generalizing t with
  | nil => rfl
  | cons m ms ih =>
    obtain ⟨e, he, rfl⟩ := hms m List.mem_cons_self
    have hknown : names.contains e.name = true :=
      List.contains_iff_mem.mpr ((map_name_entries s).subset (List.mem_map_of_mem he))
    have hrest := ih (fun m hm => hms m (List.mem_cons_of_mem _ hm)) (s.taking t e.name)
    simp only [Placed.member, withMembers, hknown, withMember_entry he]
    exact hrest

/-- The file has all values but that of a template file there is not, which stays missing. -/
theorem foldl_taking_names (s : Settings) : (s.entries.map Entry.name).foldl s.taking {} = s := by
  obtain ⟨_, _, _, templateFile, _, _, _⟩ := s
  cases templateFile <;> rfl

/-- The text of settings is read as the settings. -/
theorem ofText_text (s : Settings) : ofText s.text = .ok s := by
  have hread : Toml.read s.text = .ok ((Toml.placed 0 s.entries).map Placed.member) := by
    rw [text_eq_document]
    exact Toml.read_document (nodup_names s)
  have hentries := Toml.map_toEntry_placed 0 s.entries
  generalize Toml.placed 0 s.entries = ps at hread hentries
  have hperm := List.mergeSort_perm (ps.map Placed.member) fun a b => a.1.2 ≤ b.1.2
  have hsaved {m : Toml.Key × (Span × Toml.Value)} (hm : m ∈ ps.map Placed.member) :
      ∃ e : Placed, e.toEntry ∈ s.entries ∧ e.member = m := by
    obtain ⟨e, he, rfl⟩ := List.mem_map.mp hm
    exact ⟨e, hentries ▸ List.mem_map_of_mem he, rfl⟩
  have hmembers := withMembers_eq (fun m hm => hsaved (hperm.mem_iff.mp hm)) {}
  -- the order of the names is lost: the values that they set are taken in the order of the file
  have hnames : (ps.map Placed.member).map (·.1.2) = s.entries.map Entry.name := by
    rw [← hentries, List.map_map, List.map_map]
    rfl
  rw [(hperm.map (·.1.2)).foldl_eq, hnames, foldl_taking_names] at hmembers
  unfold ofText
  rw [hread]
  dsimp only
  rw [hmembers]
  rfl

end EntityForge.Generation.Settings
