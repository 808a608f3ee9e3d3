import Phrasebook.Package
import Phrasebook.Proofs.Text.Case

/-!
# Which files belong to a package

The name of a file and that of a package are made small one by one, and then the one is cut off the
other, with the suffix at the other end. The two cuts cannot overlap, for an underscore stands
between them: what is accepted is a small form that is the small form of the package, an underscore,
an abbreviation and the suffix (`abbreviationIn?_eq_some_iff`).

An abbreviation of a language has no underscore in it, so the underscore that ends the package's
name is the last one of the file's, and a file has one package at most (`Names.unique`). The small
form of a text is taken apart at an underscore, whatever stands before it, so a file that is named
after a package belongs to it (`names_of_written`).
-/

namespace Phrasebook

namespace Tree

/-- One name stands before another in the order of code points. -/
def CodesBefore : Text → Text → Prop := List.Lex fun c d => c.toNat < d.toNat

theorem nameBefore_iff {a b : Text} : nameBefore a b = true ↔ a = b ∨ CodesBefore a b := by
  induction a generalizing b with
  | nil =>
    cases b with
    | nil => simp [nameBefore]
    | cons d b => simp [nameBefore, CodesBefore]
  | cons c a ih =>
    cases b with
    | nil => simp [nameBefore, CodesBefore]
    | cons d b =>
      unfold CodesBefore at ih ⊢
      simp only [nameBefore, Bool.or_eq_true, Bool.and_eq_true, decide_eq_true_eq, beq_iff_eq, ih,
        List.cons_lex_cons_iff, List.cons.injEq]
      grind

theorem nameBefore_total (a b : Text) : (nameBefore a b || nameBefore b a) = true := by
  induction a generalizing b with
  | nil => rfl
  | cons c a ih =>
    cases b with
    | nil => rfl
    | cons d b =>
      have := ih b
      simp only [nameBefore, Bool.or_eq_true, Bool.and_eq_true, decide_eq_true_eq,
        beq_iff_eq] at this ⊢
      rcases Nat.lt_trichotomy c.toNat d.toNat with less | same | more
      · exact .inl (.inl less)
      · obtain rfl : c = d := Char.toNat_inj.1 same
        exact this.imp (fun h => .inr ⟨rfl, h⟩) fun h => .inr ⟨rfl, h⟩
      · exact .inr (.inl more)

theorem nameBefore_trans (a b c : Text) (hab : nameBefore a b = true)
    (hbc : nameBefore b c = true) : nameBefore a c = true := by
  induction a generalizing b c with
  | nil => rfl
  | cons x a ih =>
    match b, c with
    | [], _ => cases hab
    | _ :: _, [] => cases hbc
    | y :: b, z :: c =>
      simp only [nameBefore, Bool.or_eq_true, Bool.and_eq_true, decide_eq_true_eq,
        beq_iff_eq] at hab hbc ⊢
      rcases hab with less | ⟨rfl, hab⟩
      · rcases hbc with less' | ⟨rfl, -⟩
        · exact .inl (Nat.lt_trans less less')
        · exact .inl less
      · exact hbc.imp id fun ⟨same, hbc⟩ => ⟨same, ih b c hab hbc⟩

theorem sorted_perm (ts : List (Text × Tree)) : (sorted ts).Perm ts := List.mergeSort_perm ts _

theorem pairwise_sorted (ts : List (Text × Tree)) :
    (sorted ts).Pairwise fun a b => nameBefore a.1 b.1 = true :=
  List.pairwise_mergeSort (fun a b c => nameBefore_trans a.1 b.1 c.1)
    (fun a b => nameBefore_total a.1 b.1) ts

end Tree

theorem Language.underscore_not_mem {s : Text} {language : Language}
    (h : ofAbbreviation? s = some language) : '_' ∉ s := by
  have small : language.abbreviation = Text.lower (Text.trim s) := by
    have found := List.find?_some h
    exact beq_iff_eq.1 found
  intro mem
  obtain ⟨front, back, whole, blank, blank'⟩ := Text.exists_trim s
  have inner : '_' ∈ Text.trim s := by
    have unblank : Text.isBlank '_' ≠ true := by decide
    rw [whole, List.append_assoc, List.mem_append, List.mem_append] at mem
    rcases mem with mem | mem | mem
    · exact absurd (blank _ mem) unblank
    · exact mem
    · exact absurd (blank' _ mem) unblank
  obtain ⟨s₁, s₂, apart⟩ := List.append_of_mem inner
  have kept : '_' ∈ language.abbreviation := by
    rw [small, apart, Text.isBreak_underscore.lower_append]
    simp
  have free : '_' ∉ language.abbreviation := by cases language <;> decide
  exact free kept

/-- The abbreviations and the suffix are small. -/
theorem Language.lower_ending (language : Language) :
    Text.lower (language.abbreviation ++ Package.suffix) =
      language.abbreviation ++ Package.suffix := by
  cases language <;> decide

namespace Package

variable {packageName packageName' fileName abbreviation : Text}

/-- The file's name is the package's, an underscore, an abbreviation and the suffix, where both
names count in their small forms. -/
theorem abbreviationIn?_eq_some_iff :
    abbreviationIn? packageName fileName = some abbreviation ↔
      Text.lower fileName = Text.lower packageName ++ '_' :: (abbreviation ++ suffix) := by
  unfold abbreviationIn?
  generalize Text.lower packageName = base
  generalize Text.lower fileName = file
  constructor
  · intro h
    simp only [Bool.and_eq_true, List.isPrefixOf_iff_prefix, List.isSuffixOf_iff_suffix] at h
    split at h
    · next cuts =>
      obtain ⟨⟨behind, starts⟩, before, stops⟩ := cuts
      have kept : file.take (file.length - suffix.length) = before := by
        rw [← stops, List.length_append, Nat.add_sub_cancel, List.take_left]
      rw [kept] at h
      split at h
      · next rest left =>
        obtain rfl := Option.some.inj h
        -- Something is left, so the package's name ends before the suffix starts.
        have short : base.length ≤ before.length := by
          by_contra long
          rw [List.drop_eq_nil_of_le (by omega)] at left
          cases left
        have front : before.take base.length = base := by
          calc before.take base.length = (before ++ suffix).take base.length :=
                (List.take_append_of_le_length short).symm
            _ = (base ++ behind).take base.length := by rw [stops, starts]
            _ = base := List.take_left
        calc file = before.take base.length ++ before.drop base.length ++ suffix := by
              rw [List.take_append_drop, stops]
          _ = base ++ '_' :: (rest ++ suffix) := by rw [front, left]; simp
      · cases h
    · cases h
  · rintro rfl
    dsimp only
    have whole : base ++ '_' :: (abbreviation ++ suffix) =
        (base ++ '_' :: abbreviation) ++ suffix := by simp
    have starts : base.isPrefixOf (base ++ '_' :: (abbreviation ++ suffix)) = true :=
      List.isPrefixOf_iff_prefix.2 (List.prefix_append _ _)
    have stops : suffix.isSuffixOf (base ++ '_' :: (abbreviation ++ suffix)) = true :=
      List.isSuffixOf_iff_suffix.2 (whole ▸ List.suffix_append _ _)
    rw [starts, stops, whole, List.length_append, Nat.add_sub_cancel, List.take_left,
      List.drop_left]
    rfl

/-- A file's name is that of a package in a language. -/
def Names (packageName fileName : Text) (language : Language) : Prop :=
  ∃ abbreviation,
    Text.lower fileName = Text.lower packageName ++ '_' :: (abbreviation ++ suffix) ∧
      Language.ofAbbreviation? abbreviation = some language

/-- A file's name is that of one package at most, up to case, and in one language. -/
theorem Names.unique {language language' : Language} (h : Names packageName fileName language)
    (h' : Names packageName' fileName language') :
    Text.lower packageName = Text.lower packageName' ∧ language = language' := by
  obtain ⟨x, name, known⟩ := h
  obtain ⟨y, name', known'⟩ := h'
  have unbroken {x : Text} {l : Language} (known : Language.ofAbbreviation? x = some l) :
      '_' ∉ x ++ suffix := by
    rw [List.mem_append, not_or]
    exact ⟨Language.underscore_not_mem known, by decide⟩
  -- The underscore of either side would stand in the ending of the other, were it not the same.
  have same : Text.lower packageName = Text.lower packageName' ∧ x ++ suffix = y ++ suffix := by
    rcases List.append_eq_append_iff.1 (name.symm.trans name') with
      ⟨more, base, ending⟩ | ⟨more, base, ending⟩
    · cases more with
      | nil => exact ⟨by simpa using base.symm, by simpa using ending⟩
      | cons c more =>
        obtain ⟨-, inside⟩ := List.cons.inj ending
        exact absurd (inside ▸ by simp) (unbroken known)
    · cases more with
      | nil => exact ⟨by simpa using base, by simpa using ending.symm⟩
      | cons c more =>
        obtain ⟨-, inside⟩ := List.cons.inj ending
        exact absurd (inside ▸ by simp) (unbroken known')
  obtain rfl := List.append_cancel_right same.2
  exact ⟨same.1, Option.some.inj (known.symm.trans known')⟩

/-- A file that is named after a package and a language belongs to the package, in whatever case the
name is written. -/
theorem names_of_written (packageName : Text) (language : Language) :
    Names packageName (packageName ++ '_' :: (language.abbreviation ++ suffix)) language :=
  ⟨language.abbreviation,
    by rw [Text.isBreak_underscore.lower_append, language.lower_ending],
    Language.ofAbbreviation?_abbreviation language⟩

section Scan

variable {directory : Text} {m : Member}

/-- The file of a package that an entry of a folder is. -/
def member? (directory packageName : Text) : Text × Tree → Option Member
  | (name, .file _) => do
    let abbreviation ← abbreviationIn? packageName name
    let language ← Language.ofAbbreviation? abbreviation
    return ⟨name, Path.below directory name, language⟩
  | (_, .folder _) => none

theorem member?_eq_some_iff {e : Text × Tree} :
    member? directory packageName e = some m ↔
      (∃ content, e = (m.name, .file content)) ∧ m.path = Path.below directory m.name ∧
        Names packageName m.name m.language := by
  obtain ⟨name, t⟩ := e
  obtain ⟨name', path, language⟩ := m
  cases t with
  | folder ts => simp [member?]
  | file content =>
    simp only [member?, Option.bind_eq_bind, Option.bind_eq_some_iff, Names,
      abbreviationIn?_eq_some_iff]
    constructor
    · rintro ⟨x, named, l, known, made⟩
      obtain ⟨rfl, rfl, rfl⟩ := Member.mk.inj (Option.some.inj made)
      exact ⟨⟨content, rfl⟩, rfl, x, named, known⟩
    · rintro ⟨⟨content, same⟩, rfl, x, named, known⟩
      obtain ⟨rfl, -⟩ := Prod.mk.inj same
      exact ⟨x, named, language, known, rfl⟩

/-- Scanning picks the files of the package from the folder. -/
theorem membersOf_eq (logger directory packageName : Text) (ts : List (Text × Tree)) :
    (membersOf logger directory packageName ts).1 =
      ts.filterMap (member? directory packageName) := by
  induction ts with
  | nil => rfl
  | cons e ts ih =>
    obtain ⟨name, t⟩ := e
    rw [List.filterMap_cons, ← ih]
    cases t with
    | folder inner => rfl
    | file content =>
      simp only [membersOf, member?]
      cases abbreviationIn? packageName name with
      | none => rfl
      | some x =>
        cases known : Language.ofAbbreviation? x with
        | none => simp [known]
        | some language => simp [known]

theorem scan_folder {tree : Tree} {p : Package} {ts : List (Text × Tree)}
    (h : tree.folder? p.directory = .ok (some ts)) (logger packageName : Text) :
    (p.scan tree logger packageName).result =
      .ok ((Tree.sorted ts).filterMap (member? p.directory packageName)) := by
  rw [← membersOf_eq logger]
  simp only [scan, folder, h]

theorem mem_scan {ts : List (Text × Tree)} :
    m ∈ (Tree.sorted ts).filterMap (member? directory packageName) ↔
      (∃ content, (m.name, .file content) ∈ ts) ∧ m.path = Path.below directory m.name ∧
        Names packageName m.name m.language := by
  simp only [List.mem_filterMap, (Tree.sorted_perm ts).mem_iff, member?_eq_some_iff]
  constructor
  · rintro ⟨e, listed, ⟨content, rfl⟩, rest⟩
    exact ⟨⟨content, listed⟩, rest⟩
  · rintro ⟨⟨content, listed⟩, rest⟩
    exact ⟨_, listed, ⟨content, rfl⟩, rest⟩

theorem names_of_scan {tree : Tree} {logger : Text} {p : Package} {members : List Member}
    (scanned : (p.scan tree logger packageName).result = .ok members) (hm : m ∈ members) :
    Names packageName m.name m.language := by
  cases found : tree.folder? p.directory with
  | error f =>
    simp only [scan, folder, found] at scanned
    cases scanned
  | ok content =>
    cases content with
    | none =>
      simp only [scan, folder, found] at scanned
      obtain rfl := Except.ok.inj scanned
      cases hm
    | some ts =>
      obtain rfl := Except.ok.inj ((scan_folder found logger packageName).symm.trans scanned)
      exact (mem_scan.1 hm).2.2

end Scan

/-- **File names are parsed exactly and in one way.** A scan of a folder yields its files whose
small name is the small name of the package, an underscore, an abbreviation and the suffix, with the
language of the abbreviation, in the order of code points and without repetition. A file that is
named after the package and a language is among them and has that language. A file name is that of
one package at most, up to case, and in one language, so the scans for packages with different small
names share no file. -/
theorem scan_exact (tree : Tree) (logger : Text) (p : Package) :
    (∀ ts, tree.folder? p.directory = .ok (some ts) → ∀ packageName, ∃ members,
      (p.scan tree logger packageName).result = .ok members ∧
      (∀ m, m ∈ members ↔ (∃ content, (m.name, .file content) ∈ ts) ∧
        m.path = Path.below p.directory m.name ∧ Names packageName m.name m.language) ∧
      (members.Pairwise fun m m' => m.name = m'.name ∨ Tree.CodesBefore m.name m'.name) ∧
      ((ts.map Prod.fst).Nodup → (members.map Member.name).Nodup) ∧
      ∀ language content,
        (packageName ++ '_' :: (language.abbreviation ++ suffix), .file content) ∈ ts →
          ∃ m ∈ members, m.name = packageName ++ '_' :: (language.abbreviation ++ suffix) ∧
            m.language = language) ∧
    (∀ packageName packageName' fileName language language', Names packageName fileName language →
      Names packageName' fileName language' →
        Text.lower packageName = Text.lower packageName' ∧ language = language') ∧
    ∀ packageName packageName' members members',
      (p.scan tree logger packageName).result = .ok members →
      (p.scan tree logger packageName').result = .ok members' →
      Text.lower packageName ≠ Text.lower packageName' →
        ∀ m ∈ members, ∀ m' ∈ members', m.name ≠ m'.name := by
  refine ⟨fun ts folder packageName => ?_, fun _ _ _ _ _ h h' => h.unique h',
    fun packageName packageName' members members' scanned scanned' different m hm m' hm' same => ?_⟩
  · refine ⟨_, scan_folder folder logger packageName, fun m => mem_scan, ?_, fun distinct => ?_,
      fun language content listed => ?_⟩
    · refine (Tree.pairwise_sorted ts).filterMap _ fun e e' before m hm m' hm' => ?_
      obtain ⟨⟨_, rfl⟩, -⟩ := member?_eq_some_iff.1 hm
      obtain ⟨⟨_, rfl⟩, -⟩ := member?_eq_some_iff.1 hm'
      exact Tree.nameBefore_iff.1 before
    · have distinct : ((Tree.sorted ts).map Prod.fst).Nodup :=
        ((Tree.sorted_perm ts).map Prod.fst).nodup_iff.2 distinct
      refine List.pairwise_map.2 ((List.pairwise_map.1 distinct).filterMap _ ?_)
      intro e e' apart m hm m' hm'
      obtain ⟨⟨_, rfl⟩, -⟩ := member?_eq_some_iff.1 hm
      obtain ⟨⟨_, rfl⟩, -⟩ := member?_eq_some_iff.1 hm'
      exact apart
    · exact ⟨⟨_, Path.below p.directory _, language⟩,
        mem_scan.2 ⟨⟨content, listed⟩, rfl, names_of_written packageName language⟩, rfl, rfl⟩
  · have names := names_of_scan scanned hm
    exact different (names.unique (same ▸ names_of_scan scanned' hm')).1

/-- Files of one package whose name ends in a sigma, in several cases, a file of another package,
and a folder with the name of a file. -/
def sigmaFolder : List (Text × Tree) := [
  ("αΣ_ De.YML".toList, .file (.octets .empty)),
  ("ΑΣ_fr.yml".toList, .file (.octets .empty)),
  ("ασ_en.yml".toList, .file (.octets .empty)),
  ("ας_it.yml".toList, .folder [])]

/-- The sigma of the package is final, so the files of the package are those with a capital sigma.
The file with a small one belongs to another package. -/
theorem scan_exact_sigma :
    let p := new ['.'] "ΑΣ".toList none
    let tree := Tree.folder sigmaFolder
    ∃ members members', (p.scan tree [] "ΑΣ".toList).result = .ok members ∧
      (p.scan tree [] "ασ".toList).result = .ok members' ∧
      (∃ m ∈ members, m.name = "ΑΣ_fr.yml".toList ∧ m.language = .french) ∧
      (⟨"αΣ_ De.YML".toList, "αΣ_ De.YML".toList, .german⟩ : Member) ∈ members ∧
      (members.map Member.name).Nodup ∧
      (Names "ΑΣ".toList "αΣ_ De.YML".toList .german ∧
        ¬ Names "ασ".toList "αΣ_ De.YML".toList .german) ∧
      Text.lower "ΑΣ".toList ≠ Text.lower "ασ".toList ∧
      ∀ m ∈ members, ∀ m' ∈ members', m.name ≠ m'.name := by
  intro p tree
  obtain ⟨exact, unique, apart⟩ := scan_exact tree [] p
  have different : Text.lower "ΑΣ".toList ≠ Text.lower "ασ".toList := by decide +kernel
  have named : Names "ΑΣ".toList "αΣ_ De.YML".toList .german :=
    ⟨" de".toList, by decide +kernel, by decide +kernel⟩
  obtain ⟨members, scanned, iff, -, distinct, written⟩ := exact sigmaFolder rfl "ΑΣ".toList
  obtain ⟨members', scanned', -⟩ := exact sigmaFolder rfl "ασ".toList
  refine ⟨members, members', scanned, scanned', ?_, ?_, distinct (by decide), ⟨named, ?_⟩,
    different, apart _ _ members members' scanned scanned' different⟩
  · exact written .french (.octets .empty) (by simp [sigmaFolder, Language.abbreviation, suffix])
  · exact (iff _).2 ⟨⟨.octets .empty, List.mem_cons_self⟩, by decide +kernel, named⟩
  · exact fun other => different (unique _ _ _ _ _ named other).1

end Package

end Phrasebook
