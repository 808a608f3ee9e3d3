import Mathlib.Data.List.Chain
import Phrasebook.Color
import Phrasebook.Proofs.Text.Pairs

/-!
# Translating colours

The replacement of colours walks over the text that it changes, so a step may meet what the step
before it wrote. If the alternate sign is no code, this makes no difference: the steps could all be
taken at once (`exchangeAll`), and what stands at a place is decided by three characters of the old
text, its own and its neighbours (`translate_at_once`). Characters that are neither written nor
replaced (`Inert`) then stand at the same places before and afterwards, and the text can be
translated on both sides of one of them on its own (`Inert.translate_append_cons`).

If the alternate sign is itself a code, one replacement may lead to the next. They all end in one
pass: no two neighbours of the new text would be replaced (`Rests`), so that translating it again
changes nothing (`translate_settled`).
-/

namespace Phrasebook.Color

theorem isCode_toLower {c : Char} (h : isCode c = true) : isCode c.toLower = true := by
  have small : codes.all (fun c => isCode c.toLower) = true := by decide +kernel
  exact List.all_eq_true.1 small c (List.contains_iff_mem.1 h)

theorem toLower_toLower {c : Char} (h : isCode c = true) : c.toLower.toLower = c.toLower := by
  have small : codes.all (fun c => c.toLower.toLower == c.toLower) = true := by decide +kernel
  exact eq_of_beq (List.all_eq_true.1 small c (List.contains_iff_mem.1 h))

theorem isCode_sign : isCode sign = false := by decide

/-- A place of a text holds one character, so an alternate sign of another length stands nowhere. -/
theorem translate_of_length_ne_one {alt : Text} (h : alt.length ≠ 1) (s : Text) :
    translate alt s = s := by
  match alt, s with
  | [], _ => rfl
  | [_], _ => exact absurd rfl h
  | _ :: _ :: _, _ => rfl

/-! ## All replacements at once -/

/-- A character as the step before it leaves it: a code behind the alternate sign is made small. -/
def settle (alt : Char) (before : Option Char) (c : Char) : Char :=
  if before = some alt ∧ isCode c then c.toLower else c

/-- What comes in the place of a character if all replacements are made at once. -/
def exchange (alt : Char) (before : Option Char) (c : Char) (behind : Option Char) : Char :=
  if c = alt ∧ behind.any isCode then sign else settle alt before c

/-- A text with all replacements made at once, given the character before it. -/
def exchangeAll (alt : Char) (before : Option Char) : Text → Text
  | [] => []
  | c :: rest => exchange alt before c rest.head? :: exchangeAll alt (some c) rest

section AtOnce

variable {alt : Char}

/-- A step neither makes the alternate sign nor removes it from the place behind it. -/
theorem settle_eq_alt_iff (foreign : isCode alt = false) (before : Option Char) (c : Char) :
    settle alt before c = alt ↔ c = alt := by
  unfold settle
  split
  · next h =>
    have small : c.toLower ≠ alt := by
      rintro rfl
      rw [isCode_toLower h.2] at foreign
      cases foreign
    have large : c ≠ alt := by
      rintro rfl
      rw [h.2] at foreign
      cases foreign
    exact iff_of_false small large
  · exact Iff.rfl

/-- The walk from a character that the step before it has settled makes all replacements from that
character on. -/
theorem translateFrom_settle (foreign : isCode alt = false) (before : Option Char) (c : Char)
    (rest : Text) :
    translateFrom alt (settle alt before c) rest = exchangeAll alt before (c :: rest) := by
  induction rest generalizing before c with
  | nil => simp [translateFrom, exchangeAll, exchange]
  | cons d rest ih =>
    simp only [translateFrom, settle_eq_alt_iff foreign]
    rw [exchangeAll, ← ih]
    by_cases pair : c = alt ∧ isCode d = true
    -- the next step meets the code as this one has made it small
    · obtain ⟨rfl, code⟩ := pair
      simp [exchange, settle, code]
    · have same : settle alt (some c) d = d := if_neg (by simpa using pair)
      have kept : exchange alt before c (some d) = settle alt before c :=
        if_neg (by simpa using pair)
      rw [if_neg pair, same, List.head?_cons, kept]

/-- If the alternate sign is no code, the walk makes all replacements at once. -/
theorem translate_eq_exchangeAll (foreign : isCode alt = false) (s : Text) :
    translate [alt] s = exchangeAll alt none s := by
  cases s with
  | nil => rfl
  | cons c rest => exact translateFrom_settle foreign none c rest

theorem getElem?_exchangeAll (before : Option Char) (s : Text) (i : Nat) :
    (exchangeAll alt before s)[i]? =
      s[i]?.map fun c => exchange alt (if i = 0 then before else s[i - 1]?) c s[i + 1]? := by
  induction s generalizing before i with
  | nil => rfl
  | cons c rest ih =>
    cases i with
    | zero => simp [exchangeAll, List.head?_eq_getElem?]
    | succ i =>
      rw [exchangeAll, List.getElem?_cons_succ, ih]
      cases i <;> simp

theorem length_exchangeAll (before : Option Char) (s : Text) :
    (exchangeAll alt before s).length = s.length := by
  induction s generalizing before with
  | nil => rfl
  | cons c rest ih => rw [exchangeAll, List.length_cons, List.length_cons, ih]

/-- An alternate sign that is not one character changes nothing. If it is one character and no code,
the new text is as long as the old one, and every place of it is decided by the old text: the
section sign replaces the alternate sign before a code, a code behind the alternate sign is made
small, and all else stays. -/
theorem translate_at_once (alt s : Text) :
    (alt.length ≠ 1 → translate alt s = s) ∧
    ∀ a, alt = [a] → isCode a = false →
      (translate alt s).length = s.length ∧
      ∀ i c, s[i]? = some c → (translate alt s)[i]? = some (
        if c = a ∧ s[i + 1]?.any isCode then sign
        else if (0 < i ∧ s[i - 1]? = some a) ∧ isCode c then c.toLower
        else c) := by
  refine ⟨fun other => translate_of_length_ne_one other s, ?_⟩
  rintro a rfl foreign
  rw [translate_eq_exchangeAll foreign]
  refine ⟨length_exchangeAll none s, fun i c here => ?_⟩
  have before : (if i = 0 then none else s[i - 1]?) = some a ↔ 0 < i ∧ s[i - 1]? = some a := by
    cases i <;> simp
  rw [getElem?_exchangeAll, here, Option.map_some]
  simp only [exchange, settle, before]

/-- Of two alternate signs before a code the second is replaced. Two as one alternate sign replace
nothing. -/
theorem translate_at_once_ampersands :
    isCode '&' = false ∧ (translate ['&'] "&&A&".toList)[1]? = some sign ∧
      (translate ['&'] "&&A&".toList)[2]? = some 'a' ∧
      "&&".toList.length ≠ 1 ∧ translate "&&".toList "&&A&".toList = "&&A&".toList := by
  have foreign : isCode '&' = false := by decide
  obtain ⟨-, places⟩ := (translate_at_once ['&'] "&&A&".toList).2 '&' rfl foreign
  refine ⟨foreign, (places 1 '&' rfl).trans (by decide +kernel),
    (places 2 'A' rfl).trans (by decide +kernel), by decide, ?_⟩
  exact (translate_at_once "&&".toList "&&A&".toList).1 (by decide)

end AtOnce

/-! ## One pass is enough -/

/-- Two neighbours that translation leaves as they are. -/
def Rests (alt c d : Char) : Prop := c = alt → isCode d = true → alt = sign ∧ d.toLower = d

/-- The walk starts with the character that it meets, or with the section sign. -/
theorem head?_translateFrom (alt c : Char) (rest : Text) :
    ∀ d ∈ (translateFrom alt c rest).head?, d = c ∨ d = sign := by
  intro d hd
  cases rest with
  | nil => exact .inl (Option.some.inj hd).symm
  | cons e rest =>
    rw [translateFrom] at hd
    split at hd
    · exact .inr (Option.some.inj hd).symm
    · exact .inl (Option.some.inj hd).symm

/-- A step leaves nothing to do at the place it comes from: what it writes there is final, and what
the next step may still write behind it is the section sign. -/
theorem isChain_translateFrom (alt c : Char) (rest : Text) :
    (translateFrom alt c rest).IsChain (Rests alt) := by
  induction rest generalizing c with
  | nil => exact List.isChain_singleton c
  | cons d rest ih =>
    rw [translateFrom]
    split
    · next pair =>
      refine List.isChain_cons.2 ⟨fun e he same code => ?_, ih d.toLower⟩
      rcases head?_translateFrom alt d.toLower rest e he with rfl | rfl
      · exact ⟨same.symm, toLower_toLower pair.2⟩
      · exact absurd (isCode_sign.symm.trans code) Bool.false_ne_true
    · next pair =>
      refine List.isChain_cons.2 ⟨fun e he same code => ?_, ih d⟩
      rcases head?_translateFrom alt d rest e he with rfl | rfl
      · exact absurd ⟨same, code⟩ pair
      · exact absurd (isCode_sign.symm.trans code) Bool.false_ne_true

/-- A text without neighbours to replace stays as it is. -/
theorem translateFrom_of_isChain {alt c : Char} {rest : Text}
    (h : (c :: rest).IsChain (Rests alt)) : translateFrom alt c rest = c :: rest := by
  induction rest generalizing c with
  | nil => rfl
  | cons d rest ih =>
    obtain ⟨first, others⟩ := List.isChain_cons_cons.1 h
    rw [translateFrom]
    split
    · next pair =>
      obtain ⟨rfl, small⟩ := first pair.1 pair.2
      rw [small, ih others, pair.1]
    · rw [ih others]

theorem translate_of_isChain {alt : Char} {s : Text} (h : s.IsChain (Rests alt)) :
    translate [alt] s = s := by
  cases s with
  | nil => rfl
  | cons c rest => exact translateFrom_of_isChain h

theorem isChain_translate (alt : Char) (s : Text) : (translate [alt] s).IsChain (Rests alt) := by
  cases s with
  | nil => exact List.isChain_nil
  | cons c rest => exact isChain_translateFrom alt c rest

/-- A text without the alternate sign stays as it is. -/
theorem translate_of_not_mem {alt : Char} {s : Text} (h : alt ∉ s) : translate [alt] s = s := by
  apply translate_of_isChain
  rw [List.isChain_iff_getElem]
  intro i bound same
  exact absurd (same ▸ List.getElem_mem _) h

/-- Translating again changes nothing, whatever the alternate sign is. Unless it is the section
sign, no place of the new text holds it before a code; one of several characters or of none is held
by no place at all. -/
theorem translate_settled (alt s : Text) :
    translate alt (translate alt s) = translate alt s ∧
      (alt = [sign] ∨ ∀ i c d, (translate alt s)[i]? = some c →
        (translate alt s)[i + 1]? = some d → ¬ ([c] = alt ∧ isCode d = true)) := by
  by_cases single : alt.length = 1
  · obtain ⟨a, rfl⟩ := List.length_eq_one_iff.1 single
    have rests : (translate [a] s).IsChain (Rests a) := isChain_translate a s
    refine ⟨translate_of_isChain rests, ?_⟩
    by_cases final : a = sign
    · exact .inl (congrArg List.singleton final)
    · right
      rintro i c d here behind ⟨same, code⟩
      obtain ⟨bound, rfl⟩ := List.getElem?_eq_some_iff.1 behind
      obtain ⟨_, rfl⟩ := List.getElem?_eq_some_iff.1 here
      exact final (rests.getElem i bound (List.cons.inj same).1 code).1
  · have unchanged (t : Text) : translate alt t = t := translate_of_length_ne_one single t
    refine ⟨unchanged _, .inr ?_⟩
    rintro i c d - - ⟨rfl, -⟩
    exact single rfl

/-- An alternate sign that is a code. The first replacement makes one of the capital behind it, and
so on up to the last character. -/
theorem translate_settled_cascade :
    translate ['a'] (translate ['a'] "aAAb".toList) = translate ['a'] "aAAb".toList ∧
      translate ['a'] "aAAb".toList = [sign, sign, sign, 'b'] :=
  ⟨(translate_settled ['a'] "aAAb".toList).1, by decide +kernel⟩

/-! ## Characters that are never replaced -/

/-- A character that translation neither writes nor replaces. -/
structure Inert (alt x : Char) : Prop where
  not_code : isCode x = false
  ne_alternate : x ≠ alt
  ne_sign : x ≠ sign

section Inert

variable {alt x y : Char}

theorem inert_iff : Inert alt x ↔ x ∉ sign :: alt :: codes := by
  have codeless : isCode x = false ↔ x ∉ codes := by simp [isCode]
  simp only [List.mem_cons, not_or, ← codeless]
  exact ⟨fun h => ⟨h.ne_sign, h.ne_alternate, h.not_code⟩, fun h => ⟨h.2.2, h.2.1, h.1⟩⟩

theorem Inert.exchange_eq_iff (h : Inert alt x) (before : Option Char) (c : Char)
    (behind : Option Char) : exchange alt before c behind = x ↔ c = x := by
  have other {d : Char} (code : isCode d = true) : d ≠ x := by
    rintro rfl
    rw [h.not_code] at code
    cases code
  unfold exchange settle
  split
  · next replaced =>
    exact iff_of_false h.ne_sign.symm fun same => h.ne_alternate (same.symm.trans replaced.1)
  · split
    · next small => exact iff_of_false (other (isCode_toLower small.2)) (other small.2)
    · exact Iff.rfl

/-- It stands at the same places before and afterwards. -/
theorem Inert.getElem?_translate (foreign : isCode alt = false) (h : Inert alt x) (s : Text)
    (i : Nat) : (translate [alt] s)[i]? = some x ↔ s[i]? = some x := by
  rw [translate_eq_exchangeAll foreign, getElem?_exchangeAll]
  cases s[i]? with
  | none => simp
  | some c => simp [h.exchange_eq_iff]

variable (foreign : isCode alt = false)
include foreign

theorem length_translate (s : Text) : (translate [alt] s).length = s.length := by
  rw [translate_eq_exchangeAll foreign, length_exchangeAll]

theorem Inert.mem_translate (h : Inert alt x) {s : Text} : x ∈ translate [alt] s ↔ x ∈ s := by
  simp only [List.mem_iff_getElem?, h.getElem?_translate foreign]

theorem Inert.head?_translate (h : Inert alt x) {s : Text} :
    (translate [alt] s).head? = some x ↔ s.head? = some x := by
  rw [List.head?_eq_getElem?, List.head?_eq_getElem?, h.getElem?_translate foreign]

theorem Inert.getLast?_translate (h : Inert alt x) {s : Text} :
    (translate [alt] s).getLast? = some x ↔ s.getLast? = some x := by
  rw [List.getLast?_eq_getElem?, List.getLast?_eq_getElem?, length_translate foreign,
    h.getElem?_translate foreign]

theorem Inert.pair_infix_translate (hx : Inert alt x) (hy : Inert alt y) {s : Text} :
    [x, y] <:+: translate [alt] s ↔ [x, y] <:+: s := by
  have places (t : Text) : [x, y] <:+: t ↔ ∃ k, t[k]? = some x ∧ t[k + 1]? = some y := by
    rw [List.infix_iff_getElem?]
    constructor
    · rintro ⟨k, -, h⟩
      exact ⟨k, by simpa using h 0 (by simp), by simpa [Nat.add_comm] using h 1 (by simp)⟩
    · rintro ⟨k, first, second⟩
      obtain ⟨bound, -⟩ := List.getElem?_eq_some_iff.1 second
      refine ⟨k, by simp only [List.length_cons, List.length_nil]; omega, fun i hi => ?_⟩
      match i with
      | 0 => simpa using first
      | 1 => simpa [Nat.add_comm] using second
  simp only [places, hx.getElem?_translate foreign, hy.getElem?_translate foreign]

end Inert

/-- Where the alternate sign stood, it still stands or the section sign does. -/
theorem mem_translate_of_mem {alt : Char} (foreign : isCode alt = false) {s : Text} (h : alt ∈ s) :
    alt ∈ translate [alt] s ∨ sign ∈ translate [alt] s := by
  obtain ⟨i, here⟩ := List.mem_iff_getElem?.1 h
  have place : (exchangeAll alt none s)[i]? = _ := getElem?_exchangeAll none s i
  rw [← translate_eq_exchangeAll foreign, here, Option.map_some, exchange] at place
  split at place
  · exact .inr (List.mem_of_getElem? place)
  · rw [(settle_eq_alt_iff foreign _ alt).2 rfl] at place
    exact .inl (List.mem_of_getElem? place)

/-! ## Translating pieces -/

section Pieces

variable {alt x : Char}

/-- The character before a text matters only if it is the alternate sign and a code follows. -/
theorem exchangeAll_apart {before : Option Char} {s : Text}
    (apart : ¬ (before = some alt ∧ s.head?.any isCode)) :
    exchangeAll alt before s = exchangeAll alt none s := by
  cases s with
  | nil => rfl
  | cons c rest =>
    have same : settle alt before c = settle alt none c := by
      unfold settle
      rw [if_neg (by simpa using apart), if_neg (by simp)]
    simp only [exchangeAll, exchange, same]

theorem exchangeAll_append {before : Option Char} {s t : Text}
    (apart : ¬ (s.getLast?.or before = some alt ∧ t.head?.any isCode)) :
    exchangeAll alt before (s ++ t) = exchangeAll alt before s ++ exchangeAll alt none t := by
  induction s generalizing before with
  | nil => exact exchangeAll_apart apart
  | cons c s ih =>
    have rest : ¬ (s.getLast?.or (some c) = some alt ∧ t.head?.any isCode) := by
      simpa [List.getLast?_cons] using apart
    have here : exchange alt before c (s ++ t).head? = exchange alt before c s.head? := by
      cases s with
      | nil =>
        -- the character is the last one, so it is not replaced either way
        have kept : ¬ (c = alt ∧ t.head?.any isCode) := by simpa using apart
        simp [exchange, kept]
      | cons d s => rfl
    rw [List.cons_append, exchangeAll, exchangeAll, here, ih rest, List.cons_append]

variable (foreign : isCode alt = false)
include foreign

/-- A text is translated on both sides of a place that no replacement lies across. -/
theorem translate_append {s t : Text}
    (apart : ¬ (s.getLast? = some alt ∧ t.head?.any isCode)) :
    translate [alt] (s ++ t) = translate [alt] s ++ translate [alt] t := by
  simp only [translate_eq_exchangeAll foreign]
  exact exchangeAll_append (by simpa using apart)

/-- So it is on both sides of a character that is never replaced. -/
theorem Inert.translate_append_cons (h : Inert alt x) (s t : Text) :
    translate [alt] (s ++ x :: t) = translate [alt] s ++ x :: translate [alt] t := by
  have front : translate [alt] (s ++ x :: t) = translate [alt] s ++ translate [alt] (x :: t) :=
    translate_append foreign (by simp [h.not_code])
  have back : translate [alt] ([x] ++ t) = [x] ++ translate [alt] t :=
    translate_append foreign (by simp [h.ne_alternate])
  rw [front]
  exact congrArg _ back

/-- The pieces between such separators are translated one by one. -/
theorem Inert.splitOn_translate (h : Inert alt x) (s : Text) :
    Text.splitOn x (translate [alt] s) = (Text.splitOn x s).map (translate [alt]) := by
  by_cases separated : x ∈ s
  · obtain ⟨p, t, rfl, hp⟩ := List.eq_append_cons_of_mem separated
    have hp' : x ∉ translate [alt] p := fun hmem => hp ((h.mem_translate foreign).1 hmem)
    rw [h.translate_append_cons foreign, Text.splitOn_append hp', Text.splitOn_append hp,
      List.map_cons, Inert.splitOn_translate h t]
  · have whole : x ∉ translate [alt] s := fun hmem => separated ((h.mem_translate foreign).1 hmem)
    rw [Text.splitOn_of_not_mem whole, Text.splitOn_of_not_mem separated]
    rfl
termination_by s.length
decreasing_by
  subst_vars
  simp only [List.length_append, List.length_cons]
  omega

/-- If no white space is ever replaced, it can as well be trimmed before. -/
theorem trim_translate (blanks : ∀ c, Text.isBlank c = true → Inert alt c) (s : Text) :
    Text.trim (translate [alt] s) = translate [alt] (Text.trim s) := by
  obtain ⟨front, back, whole, blank, blank'⟩ := Text.exists_trim s
  have unsigned {t : Text} (h : ∀ c ∈ t, Text.isBlank c = true) : alt ∉ t := fun hmem =>
    (blanks alt (h alt hmem)).ne_alternate rfl
  -- no replacement lies across the edges of what is trimmed
  have padded : translate [alt] s = front ++ translate [alt] (Text.trim s) ++ back := by
    have before :
        translate [alt] (front ++ Text.trim s) = front ++ translate [alt] (Text.trim s) := by
      rw [translate_append foreign, translate_of_not_mem (unsigned blank)]
      exact fun across => unsigned blank (List.mem_of_getLast? across.1)
    rw [whole, translate_append foreign, before, translate_of_not_mem (unsigned blank')]
    · rw [← whole]
    · rintro ⟨-, code⟩
      obtain ⟨c, first, code⟩ := (Option.any_eq_true ..).1 code
      rw [(blanks c (blank' c (List.mem_of_head? first))).not_code] at code
      cases code
  -- and no blank comes to stand at an edge of what is left
  have trimmed : Text.trim (translate [alt] (Text.trim s)) = translate [alt] (Text.trim s) := by
    have spared {old new : Option Char} (same : ∀ c, Inert alt c → (new = some c ↔ old = some c))
        (h : ∀ c ∈ old, Text.isBlank c = false) : ∀ c ∈ new, Text.isBlank c = false := by
      intro c hc
      by_contra blank
      rw [Bool.not_eq_false] at blank
      rw [h c ((same c (blanks c blank)).1 hc)] at blank
      cases blank
    obtain ⟨first, last⟩ := Text.trim_eq_self_iff.1 (Text.trim_trim s)
    exact Text.trim_eq_self_iff.2 ⟨spared (fun c inert => inert.head?_translate foreign) first,
      spared (fun c inert => inert.getLast?_translate foreign) last⟩
  rw [padded, Text.trim_append_blank blank', Text.trim_blank_append blank, trimmed]

end Pieces

end Phrasebook.Color
