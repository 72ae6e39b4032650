/-
Classes of characters that a change of case keeps.  Letters become letters, with marks at times, and
circled letters become circled letters, so a class that does not tell two of these apart holds a
character exactly if it holds its images.
-/
import TableScribe.Proofs.Text.AsciiCase
import TableScribe.Proofs.Unicode.CaseImages
import TableScribe.Unicode.LowerText

namespace TableScribe.Unicode

/-- The letters that have another case, and the letters and marks that stand in the other case of a
letter. -/
def caseLetterRanges : List (Nat × Nat) := [
  (0x41, 0x5A), (0x61, 0x7A), (0xB5, 0xB5), (0xC0, 0xD6), (0xD8, 0xF6), (0xF8, 0x2BE),
  (0x300, 0x373), (0x376, 0x377), (0x37B, 0x37D), (0x37F, 0x37F), (0x386, 0x386), (0x388, 0x38A),
  (0x38C, 0x38C), (0x38E, 0x3A1), (0x3A3, 0x3F5), (0x3F7, 0x481), (0x48A, 0x52F), (0x531, 0x556),
  (0x561, 0x587), (0x10A0, 0x10C5), (0x10C7, 0x10C7), (0x10CD, 0x10CD), (0x10D0, 0x10FA),
  (0x10FD, 0x10FF), (0x13A0, 0x13F5), (0x13F8, 0x13FD), (0x1C80, 0x1C8A), (0x1C90, 0x1CBA),
  (0x1CBD, 0x1CBF), (0x1D79, 0x1F15), (0x1F18, 0x1F1D), (0x1F20, 0x1F45), (0x1F48, 0x1F4D),
  (0x1F50, 0x1F57), (0x1F59, 0x1F59), (0x1F5B, 0x1F5B), (0x1F5D, 0x1F5D), (0x1F5F, 0x1F7D),
  (0x1F80, 0x1FB4), (0x1FB6, 0x1FBC), (0x1FBE, 0x1FBE), (0x1FC2, 0x1FC4), (0x1FC6, 0x1FCC),
  (0x1FD0, 0x1FD3), (0x1FD6, 0x1FDB), (0x1FE0, 0x1FEC), (0x1FF2, 0x1FF4), (0x1FF6, 0x1FFC),
  (0x2126, 0x2126), (0x212A, 0x212B), (0x2132, 0x2132), (0x214E, 0x214E), (0x2160, 0x2184),
  (0x2C00, 0x2CE3), (0x2CEB, 0x2CF3), (0x2D00, 0x2D25), (0x2D27, 0x2D27), (0x2D2D, 0x2D2D),
  (0xA640, 0xA66D), (0xA680, 0xA69B), (0xA722, 0xA787), (0xA78B, 0xA7DC), (0xA7F5, 0xA7F6),
  (0xAB53, 0xAB53), (0xAB70, 0xABBF), (0xFB00, 0xFB06), (0xFB13, 0xFB17), (0xFF21, 0xFF3A),
  (0xFF41, 0xFF5A), (0x10400, 0x1044F), (0x104B0, 0x104D3), (0x104D8, 0x104FB), (0x10570, 0x1057A),
  (0x1057C, 0x1058A), (0x1058C, 0x10592), (0x10594, 0x10595), (0x10597, 0x105A1),
  (0x105A3, 0x105B1), (0x105B3, 0x105B9), (0x105BB, 0x105BC), (0x10C80, 0x10CB2),
  (0x10CC0, 0x10CF2), (0x10D50, 0x10D65), (0x10D70, 0x10D85), (0x118A0, 0x118DF),
  (0x16E40, 0x16E7F), (0x16EA0, 0x16EB8), (0x16EBB, 0x16ED3), (0x1E900, 0x1E943)]

/-- The circled letters, which count as symbols. -/
def circledLetterRanges : List (Nat × Nat) := [(0x24B6, 0x24E9)]

/-- What is mapped by a change of case stays in its family. -/
def caseFamilies : List (List (Nat × Nat)) := [caseLetterRanges, circledLetterRanges]

/-- One of the intervals holds all code points of a span. -/
def covers (ranges : List (Nat × Nat)) (first last : Nat) : Bool :=
  ranges.any fun range => range.1.ble first && last.ble range.2

/-- None of the intervals holds a code point of a span. -/
def misses (ranges : List (Nat × Nat)) (first last : Nat) : Bool :=
  ranges.all fun range => last.blt range.1 || range.2.blt first

section

variable {ranges : List (Nat × Nat)} {first last code : Nat}

theorem covers_iff :
    covers ranges first last = true ↔ ∃ range ∈ ranges, range.1 ≤ first ∧ last ≤ range.2 := by
  simp only [covers, List.any_eq_true, Bool.and_eq_true, Nat.ble_eq]

theorem misses_iff :
    misses ranges first last = true ↔ ∀ range ∈ ranges, last < range.1 ∨ range.2 < first := by
  simp only [misses, List.all_eq_true, Bool.or_eq_true, Nat.blt_eq]

theorem inRanges_iff {c : Char} :
    inRanges ranges c = true ↔ covers ranges c.toNat c.toNat = true := by
  simp only [inRanges, covers_iff, List.any_eq_true, Bool.and_eq_true, decide_eq_true_eq]

theorem covers_of_covers (hcovers : covers ranges first last = true) (hfirst : first ≤ code)
    (hlast : code ≤ last) : covers ranges code code = true := by
  obtain ⟨range, hrange, hspan⟩ := covers_iff.mp hcovers
  exact covers_iff.mpr ⟨range, hrange, by omega, by omega⟩

theorem not_covers_of_misses (hmisses : misses ranges first last = true) (hfirst : first ≤ code)
    (hlast : code ≤ last) : covers ranges code code = false := by
  apply Bool.eq_false_iff.mpr
  intro hcovers
  obtain ⟨range, hrange, hspan⟩ := covers_iff.mp hcovers
  have hapart := misses_iff.mp hmisses range hrange
  omega

end

/-- A class of characters does not tell the members of a family apart. -/
def Settled (p : Char → Bool) : Prop :=
  ∀ family ∈ caseFamilies, ∃ value, ∀ c, inRanges family c = true → p c = value

/-- A table holds each family as a whole or misses it as a whole. -/
def settles (ranges : List (Nat × Nat)) : Bool :=
  caseFamilies.all fun family =>
    family.all (fun range => covers ranges range.1 range.2) ||
      family.all fun range => misses ranges range.1 range.2

/-- Whether a table of intervals is settled can be decided on its intervals. -/
theorem settled_inRanges {ranges : List (Nat × Nat)} (hsettles : settles ranges = true) :
    Settled (inRanges ranges) := by
  intro family hfamily
  have hwhole := List.all_eq_true.mp hsettles family hfamily
  rcases Bool.or_eq_true_iff.mp hwhole with hcovers | hmisses
  · refine ⟨true, fun c hc => inRanges_iff.mpr ?_⟩
    obtain ⟨range, hrange, hspan⟩ := covers_iff.mp (inRanges_iff.mp hc)
    exact covers_of_covers (List.all_eq_true.mp hcovers range hrange) hspan.1 hspan.2
  · refine ⟨false, fun c hc => Bool.eq_false_iff.mpr (mt inRanges_iff.mp ?_)⟩
    obtain ⟨range, hrange, hspan⟩ := covers_iff.mp (inRanges_iff.mp hc)
    rw [not_covers_of_misses (List.all_eq_true.mp hmisses range hrange) hspan.1 hspan.2]
    exact Bool.false_ne_true

/-- A character is another one or lies in a family with it. -/
def Akin (c image : Char) : Prop :=
  image = c ∨ ∃ family ∈ caseFamilies, inRanges family c = true ∧ inRanges family image = true

instance (c image : Char) : Decidable (Akin c image) := inferInstanceAs (Decidable (_ ∨ _))

theorem Settled.eq_of_akin {p : Char → Bool} (hsettled : Settled p) {c image : Char}
    (hakin : Akin c image) : p image = p c := by
  rcases hakin with rfl | ⟨family, hfamily, hc, himage⟩
  · rfl
  · obtain ⟨value, hvalue⟩ := hsettled family hfamily
    rw [hvalue c hc, hvalue image himage]

/-- The last image of a run. -/
def CaseRun.reach (run : CaseRun) : Nat := run.target + (run.last - run.first)

/-- What a run reaches and its images lie in a table.  Most runs lie in one interval with all code
points between their ends; the points of the others are gone through. -/
def CaseRun.staysIn (ranges : List (Nat × Nat)) (run : CaseRun) : Bool :=
  covers ranges run.first run.last && covers ranges run.target run.reach ||
    (List.range (run.last - run.first + 1)).all fun distance =>
      distance % run.step != 0 ||
        covers ranges (run.first + distance) (run.first + distance) &&
          covers ranges (run.target + distance) (run.target + distance)

/-- The entries of two tables of a case map stay in the families. -/
def entriesStay (sequences : List (Nat × List Nat)) (runs : List CaseRun) : Bool :=
  (sequences.all fun row => caseFamilies.any fun family =>
      covers family row.1 row.1 && row.2.all fun code => covers family code code) &&
    runs.all fun run => caseFamilies.any run.staysIn

section

variable {ranges : List (Nat × Nat)} {run : CaseRun} {code image : Nat}

theorem covers_of_staysIn (hstays : run.staysIn ranges = true)
    (himage : run.image? code = some image) :
    covers ranges code code = true ∧ covers ranges image image = true := by
  simp only [CaseRun.image?, Option.ite_none_right_eq_some, Bool.and_eq_true, decide_eq_true_eq,
    beq_iff_eq, Option.some.injEq] at himage
  obtain ⟨⟨⟨hfirst, hlast⟩, hstep⟩, rfl⟩ := himage
  rcases Bool.or_eq_true_iff.mp hstays with hspans | hpoints
  · obtain ⟨hsource, htarget⟩ := Bool.and_eq_true_iff.mp hspans
    have hreach : run.target + (code - run.first) ≤ run.reach := by
      rw [CaseRun.reach]
      omega
    exact ⟨covers_of_covers hsource hfirst hlast, covers_of_covers htarget (by omega) hreach⟩
  · have hmem : code - run.first ∈ List.range (run.last - run.first + 1) := by
      rw [List.mem_range]
      omega
    have hpoint := List.all_eq_true.mp hpoints _ hmem
    simpa [hstep, Nat.add_sub_cancel' hfirst] using hpoint

end

/-- A code point of a family is that of a character. -/
theorem isValidChar_of_family {family : List (Nat × Nat)} (hfamily : family ∈ caseFamilies)
    {code : Nat} (hcovers : covers family code code = true) : code.isValidChar := by
  have hreal : ∀ family ∈ caseFamilies, ∀ range ∈ family,
      range.2 < 0xD800 ∨ 0xDFFF < range.1 ∧ range.2 < 0x110000 := by
    decide
  obtain ⟨range, hrange, hspan⟩ := covers_iff.mp hcovers
  rcases hreal family hfamily range hrange with hlow | ⟨hhigh, hbound⟩
  · exact Or.inl (by omega)
  · exact Or.inr ⟨by omega, by omega⟩

theorem akin_ofNat {family : List (Nat × Nat)} (hfamily : family ∈ caseFamilies) {c : Char}
    {code : Nat} (hc : covers family c.toNat c.toNat = true)
    (hcode : covers family code code = true) : Akin c (Char.ofNat code) := by
  have hnat : (Char.ofNat code).toNat = code := by
    rw [Char.ofNat, dif_pos (isValidChar_of_family hfamily hcode)]
    rfl
  right
  refine ⟨family, hfamily, inRanges_iff.mpr hc, inRanges_iff.mpr ?_⟩
  rwa [hnat]

/-- The images of a character are akin to it if the entries of the tables stay in the families. -/
theorem akin_of_mem_caseImage {sequences : List (Nat × List Nat)} {runs : List CaseRun}
    (hentries : entriesStay sequences runs = true) {c image : Char}
    (himage : image ∈ caseImage sequences runs c) : Akin c image := by
  obtain ⟨hsequences, hruns⟩ := Bool.and_eq_true_iff.mp hentries
  rcases mem_caseImage_cases himage with
    ⟨row, hrow, hc, code, hcode, rfl⟩ | ⟨run, hrun, code, hreached, rfl⟩ | rfl
  · obtain ⟨family, hfamily, hcovers⟩ :=
      List.any_eq_true.mp (List.all_eq_true.mp hsequences row hrow)
    obtain ⟨hsource, hcodes⟩ := Bool.and_eq_true_iff.mp hcovers
    rw [hc] at hsource
    exact akin_ofNat hfamily hsource (List.all_eq_true.mp hcodes code hcode)
  · obtain ⟨family, hfamily, hstays⟩ := List.any_eq_true.mp (List.all_eq_true.mp hruns run hrun)
    obtain ⟨hsource, hcode⟩ := covers_of_staysIn hstays hreached
    exact akin_ofNat hfamily hsource hcode
  · exact Or.inl rfl

theorem akin_ascii : ∀ code < 0x80, Akin (Char.ofNat code) (Char.ofNat code).toLower ∧
    Akin (Char.ofNat code) (Char.ofNat code).toUpper := by
  decide +kernel

theorem entriesStay_tables :
    entriesStay lowerSequences lowerRuns = true ∧ entriesStay upperSequences upperRuns = true := by
  decide +kernel

theorem akin_of_mem_lowerCase {c image : Char} (himage : image ∈ lowerCase c) : Akin c image := by
  by_cases hc : c.toNat < 0x80
  · rw [lowerCase, if_pos hc] at himage
    rw [List.mem_singleton.mp himage]
    exact Text.of_isAscii (P := fun c => Akin c c.toLower)
      (fun code hcode => (akin_ascii code hcode).1) hc
  · rw [lowerCase, if_neg hc] at himage
    exact akin_of_mem_caseImage entriesStay_tables.1 himage

theorem akin_of_mem_upperCase {c image : Char} (himage : image ∈ upperCase c) : Akin c image := by
  by_cases hc : c.toNat < 0x80
  · rw [upperCase, if_pos hc] at himage
    rw [List.mem_singleton.mp himage]
    exact Text.of_isAscii (P := fun c => Akin c c.toUpper)
      (fun code hcode => (akin_ascii code hcode).2) hc
  · rw [upperCase, if_neg hc] at himage
    exact akin_of_mem_caseImage entriesStay_tables.2 himage

/-- A text resembles another one for a class of characters: it is empty, starts with a character of
the class and consists of such characters exactly if the other one is and does. -/
structure Resembles (p : Char → Bool) (text image : List Char) : Prop where
  isEmpty : image.isEmpty = text.isEmpty
  first : image.head?.any p = text.head?.any p
  all : image.all p = text.all p

namespace Resembles

variable {p : Char → Bool}

theorem refl (text : List Char) : Resembles p text text := ⟨rfl, rfl, rfl⟩

theorem trans {text middle image : List Char} (hfirst : Resembles p text middle)
    (hsecond : Resembles p middle image) : Resembles p text image :=
  ⟨hsecond.isEmpty.trans hfirst.isEmpty, hsecond.first.trans hfirst.first,
    hsecond.all.trans hfirst.all⟩

theorem append {text image text' image' : List Char} (hfront : Resembles p text image)
    (hback : Resembles p text' image') : Resembles p (text ++ text') (image ++ image') := by
  cases text with
  | nil =>
      obtain rfl := List.isEmpty_iff.mp hfront.isEmpty
      exact hback
  | cons c text =>
      cases image with
      | nil => exact nomatch hfront.isEmpty
      | cons d image =>
          refine ⟨rfl, hfront.first, ?_⟩
          rw [List.all_append, List.all_append, hfront.all, hback.all]

theorem flatMap {items : List (List Char)} {f : List Char → List Char}
    (hitems : ∀ item, Resembles p item (f item)) : Resembles p items.flatten (items.flatMap f) := by
  induction items with
  | nil => exact refl []
  | cons item items ih => exact (hitems item).append ih

variable (hsettled : Settled p)

include hsettled

/-- The images of a character resemble it. -/
theorem of_akin {c : Char} {images : List Char} (hne : images ≠ [])
    (hakin : ∀ image ∈ images, Akin c image) : Resembles p [c] images := by
  obtain ⟨image, others, rfl⟩ := List.exists_cons_of_ne_nil hne
  have hsame : ∀ other ∈ image :: others, p other = p c :=
    fun other hother => hsettled.eq_of_akin (hakin other hother)
  obtain ⟨himage, hothers⟩ := List.forall_mem_cons.mp hsame
  refine ⟨rfl, himage, ?_⟩
  rw [List.all_cons, himage, List.all_cons, List.all_nil]
  cases hc : p c with
  | false => rfl
  | true => simpa [hc] using hothers

/-- A text in lower case resembles the text. -/
theorem lowerAfter (before text : List Char) : Resembles p text (lowerAfter before text) := by
  induction text generalizing before with
  | nil => exact refl []
  | cons c rest ih =>
      -- A capital sigma is mapped apart from the tables, by where it stands.
      change Resembles p ([c] ++ rest) _
      refine append ?_ (ih (c :: before))
      split
      case isTrue hsigma =>
        apply of_akin hsettled (List.cons_ne_nil _ _)
        intro image himage
        rw [hsigma, List.mem_singleton.mp himage]
        split <;> decide
      case isFalse =>
        exact of_akin hsettled (lowerCase_ne_nil c) fun image => akin_of_mem_lowerCase

end Resembles

end TableScribe.Unicode
