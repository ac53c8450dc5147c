import EntityForge.Proofs.Text.Runs
import EntityForge.Text.Case
import EntityForge.Text.Cluster

/-!
# Texts of ASCII characters

A text of ASCII characters falls into clusters of one character each, except that a carriage return
and a line feed behind it are one cluster. Its upper and lower case are those of its characters, and
changing the case of a text in the one direction forgets that it was changed in the other.
-/

namespace EntityForge.Text

/-- A text of ASCII characters. -/
def Ascii (cs : List Char) : Prop :=
  ∀ c ∈ cs, c.toNat < 128

instance (cs : List Char) : Decidable (Ascii cs) :=
  List.decidableBAll (fun c : Char => c.toNat < 128) cs

variable {c : Char} {cs : List Char}

theorem ascii_cons : Ascii (c :: cs) ↔ c.toNat < 128 ∧ Ascii cs :=
  List.forall_mem_cons

/-- What holds of each of the 128 characters holds of every character of ASCII. -/
theorem forall_ascii {p : Char → Prop} (h : ∀ n < 128, p (Char.ofNat n)) (hc : c.toNat < 128) :
    p c :=
  Char.ofNat_toNat c ▸ h c.toNat hc

/-! ### Case -/

theorem upper_of_ascii (hc : c.toNat < 128) : upper c = [c.toUpper] :=
  if_pos hc

theorem lower_of_ascii (hc : c.toNat < 128) : lower c = [c.toLower] :=
  if_pos hc

theorem toUpper_toLower (hc : c.toNat < 128) : c.toLower.toUpper = c.toUpper :=
  forall_ascii (p := fun c => c.toLower.toUpper = c.toUpper) (by decide +kernel) hc

theorem toLower_toUpper (hc : c.toNat < 128) : c.toUpper.toLower = c.toLower :=
  forall_ascii (p := fun c => c.toUpper.toLower = c.toLower) (by decide +kernel) hc

theorem toLower_toLower (hc : c.toNat < 128) : c.toLower.toLower = c.toLower :=
  forall_ascii (p := fun c => c.toLower.toLower = c.toLower) (by decide +kernel) hc

theorem toNat_toLower_lt (hc : c.toNat < 128) : c.toLower.toNat < 128 :=
  forall_ascii (p := fun c => c.toLower.toNat < 128) (by decide +kernel) hc

theorem isUpper_toLower (hc : c.toNat < 128) : c.toLower.isUpper = false :=
  forall_ascii (p := fun c => c.toLower.isUpper = false) (by decide +kernel) hc

theorem isUpper_toUpper (hc : c.toNat < 128) (halpha : c.isAlpha = true) :
    c.toUpper.isUpper = true :=
  forall_ascii (p := fun c => c.isAlpha = true → c.toUpper.isUpper = true) (by decide +kernel) hc
    halpha

theorem lowerFrom_of_ascii (before : List Char) (h : Ascii cs) :
    lowerFrom before cs = cs.map Char.toLower := by
  induction cs generalizing before with
  | nil => rfl
  | cons c cs ih =>
    obtain ⟨hc, hcs⟩ := ascii_cons.mp h
    have hsigma : c ≠ 'Σ' := by
      rintro rfl
      exact absurd hc (by decide)
    rw [lowerFrom, ih _ hcs, if_neg (fun h => hsigma h.1), lower_of_ascii hc]
    rfl

theorem lowerText_of_ascii (h : Ascii cs) : lowerText cs = cs.map Char.toLower :=
  lowerFrom_of_ascii [] h

/-! ### Clusters -/

/-- The classes of ASCII characters. -/
def PlainClass (k : ClusterClass) : Prop :=
  k = .cr ∨ k = .lf ∨ k = .control ∨ k = .other

instance (k : ClusterClass) : Decidable (PlainClass k) :=
  inferInstanceAs (Decidable (_ ∨ _))

theorem plainClass_ofChar (hc : c.toNat < 128) : PlainClass (ClusterClass.ofChar c) :=
  forall_ascii (p := fun c => PlainClass (ClusterClass.ofChar c)) (by decide +kernel) hc

theorem ofChar_eq_cr (hc : c.toNat < 128) : ClusterClass.ofChar c = .cr → c = '\r' :=
  forall_ascii (p := fun c => ClusterClass.ofChar c = .cr → c = '\r') (by decide +kernel) hc

theorem ofChar_eq_lf (hc : c.toNat < 128) : ClusterClass.ofChar c = .lf → c = '\n' :=
  forall_ascii (p := fun c => ClusterClass.ofChar c = .lf → c = '\n') (by decide +kernel) hc

/-- Among ASCII characters only a line feed goes on with a cluster, and only behind a carriage
return. -/
theorem joins_eq_true {s : ClusterState} {k : ClusterClass} (hs : PlainClass s.last)
    (hk : PlainClass k) (h : s.joins k = true) : s.last = .cr ∧ k = .lf := by
  simp only [PlainClass] at hs hk
  rcases hs with hs | hs | hs | hs <;> rcases hk with rfl | rfl | rfl | rfl <;>
    simp_all [ClusterState.joins]

/-- A cluster that ends in a line feed is complete. -/
theorem clustersFrom_of_lf {state : ClusterState} (current cs : List Char)
    (h : state.last = .lf) : clustersFrom state current cs = current.reverse :: clusters cs := by
  cases cs with
  | nil => rfl
  | cons d ds =>
    have hjoins : state.joins (ClusterClass.ofChar d) = false := by
      simp only [ClusterState.joins, h]
    rw [clustersFrom, clusters]
    simp only [hjoins, Bool.false_eq_true, if_false]

/-- The first cluster of a text of ASCII characters is its first character or a line end of two
characters. -/
theorem clusters_cons_of_ascii (h : Ascii (c :: cs)) :
    clusters (c :: cs) = [c] :: clusters cs ∨
      ∃ rest, c = '\r' ∧ cs = '\n' :: rest ∧
        clusters (c :: cs) = ['\r', '\n'] :: clusters rest := by
  obtain ⟨hc, hcs⟩ := ascii_cons.mp h
  cases cs with
  | nil => exact .inl rfl
  | cons d ds =>
    obtain ⟨hd, hds⟩ := ascii_cons.mp hcs
    rw [clusters, clustersFrom]
    by_cases hjoins : (ClusterState.start (ClusterClass.ofChar c)).joins (ClusterClass.ofChar d) =
      true
    · obtain ⟨hcr, hlf⟩ := joins_eq_true (plainClass_ofChar hc) (plainClass_ofChar hd) hjoins
      obtain rfl := ofChar_eq_cr hc hcr
      obtain rfl := ofChar_eq_lf hd hlf
      refine .inr ⟨ds, rfl, rfl, ?_⟩
      simp only [hjoins, if_true]
      exact clustersFrom_of_lf _ ds hlf
    · simp only [hjoins]
      exact .inl rfl

/-- A cluster of ASCII characters that has an underscore is the underscore. -/
theorem eq_underscore_of_mem_clusters (h : Ascii cs) {cluster : List Char}
    (hcluster : cluster ∈ clusters cs) (hmem : '_' ∈ cluster) : cluster = ['_'] := by
  induction hn : cs.length using Nat.strong_induction_on generalizing cs with
  | h n ih =>
    cases cs with
    | nil => cases hcluster
    | cons c cs =>
      obtain ⟨hc, hcs⟩ := ascii_cons.mp h
      rcases clusters_cons_of_ascii h with hfirst | ⟨rest, rfl, rfl, hfirst⟩
      · rw [hfirst] at hcluster
        rcases List.mem_cons.mp hcluster with rfl | hcluster
        · rw [List.mem_singleton.mp hmem]
        · exact ih cs.length (by simp [← hn]) hcs hcluster rfl
      · rw [hfirst] at hcluster
        rcases List.mem_cons.mp hcluster with rfl | hcluster
        · simp at hmem
        · have hlength : rest.length < n := by
            rw [← hn, List.length_cons, List.length_cons]
            omega
          exact ih rest.length hlength (ascii_cons.mp hcs).2 hcluster rfl

end EntityForge.Text
