/-
The texts of strings.  A string is read as the text that it stands for, whatever
its characters are written as; a string that stands for no text is not read.
-/
import TableScribe.Json.Shape
import TableScribe.Proofs.Attempts
import TableScribe.Proofs.Json.Grammar

namespace TableScribe.Json

theorem not_surrogate (c : Char) : isLead c.toNat = false ∧ isTrail c.toNat = false := by
  have hvalid := c.valid
  simp only [UInt32.isValidChar, Nat.isValidChar] at hvalid
  simp only [isLead, isTrail, Bool.and_eq_false_iff, decide_eq_false_iff_not, Char.toNat]
  omega

/-- A unit that is no half of a surrogate pair is a character. -/
theorem decodePieces_unit {code : Nat} (hlead : isLead code = false) (htrail : isTrail code = false)
    (pieces : List Piece) :
    decodePieces none (.unit code :: pieces) =
      (decodePieces none pieces).map (Char.ofNat code :: ·) := by
  match pieces with
  | [] => simp [decodePieces, hlead, htrail, Except.map]
  | .unit trail :: rest => simp [decodePieces, hlead, htrail, Functor.map]
  | .char c :: rest => simp [decodePieces, hlead, htrail, Functor.map]

theorem toNat_lt (c : Char) : c.toNat < 0x110000 := by
  have hvalid := c.valid
  simp only [UInt32.isValidChar, Nat.isValidChar] at hvalid
  simp only [Char.toNat]
  omega

theorem pairChar_toNat {c : Char} (hc : 0x10000 ≤ c.toNat) :
    pairChar (0xD800 + (c.toNat - 0x10000) / 0x400) (0xDC00 + (c.toNat - 0x10000) % 0x400) = c := by
  have hsum := Nat.div_add_mod (c.toNat - 0x10000) 0x400
  have hcode : 0x10000 + (0xD800 + (c.toNat - 0x10000) / 0x400 - 0xD800) * 0x400 +
      (0xDC00 + (c.toNat - 0x10000) % 0x400 - 0xDC00) = c.toNat := by omega
  rw [pairChar, hcode, Char.ofNat_toNat]

/-- A string is read as the text that it denotes. -/
theorem Denote.decodePieces {pieces : List Piece} {text : List Char}
    (hdenote : Denote pieces text) : decodePieces none pieces = .ok text := by
  induction hdenote with
  | nil => rfl
  | char c _ ih => simp [Json.decodePieces, ih, bind, Except.bind, pure, Except.pure]
  | unit c _ ih =>
      obtain ⟨hlead, htrail⟩ := not_surrogate c
      rw [decodePieces_unit hlead htrail, ih, Char.ofNat_toNat]
      rfl
  | pair c hc _ ih =>
      have hbound := toNat_lt c
      have hlead : isLead (0xD800 + (c.toNat - 0x10000) / 0x400) = true := by
        simp only [isLead, Bool.and_eq_true, decide_eq_true_eq]
        omega
      have hnot : isTrail (0xD800 + (c.toNat - 0x10000) / 0x400) = false := by
        simp only [isTrail, Bool.and_eq_false_iff, decide_eq_false_iff_not]
        omega
      have htrail : isTrail (0xDC00 + (c.toNat - 0x10000) % 0x400) = true := by
        simp only [isTrail, Bool.and_eq_true, decide_eq_true_eq]
        omega
      simp [Json.decodePieces, hlead, hnot, htrail, ih, pairChar_toNat hc, bind, Except.bind, pure,
        Except.pure]

/-- A string is read as the text that it stands for. -/
theorem StringLiteral.Denotes.read {literal : StringLiteral} {text : String}
    (hdenotes : literal.Denotes text) : literal.read = .ok text := by
  obtain ⟨hfault, hdenote⟩ := hdenotes
  rw [StringLiteral.read, hfault, hdenote.decodePieces]
  simp

/-- A string without escapes. -/
def StringLiteral.plain (text : String) : StringLiteral := ⟨text.toList.map .char, none⟩

theorem StringLiteral.plain_denotes (text : String) : (plain text).Denotes text := by
  refine ⟨rfl, ?_⟩
  change Denote (text.toList.map .char) text.toList
  induction text.toList with
  | nil => exact .nil
  | cons c rest ih => exact .char c ih

theorem toNat_ofNat {code : Nat} (hcode : code.isValidChar) : (Char.ofNat code).toNat = code := by
  rw [Char.ofNat, dif_pos hcode]
  rfl

theorem Denote.unit_cons {code : Nat} {pieces : List Piece} {text : List Char}
    (hbound : code < 0x10000) (hlead : ¬isLead code = true) (htrail : ¬isTrail code = true)
    (hrest : Denote pieces text) : Denote (.unit code :: pieces) (Char.ofNat code :: text) := by
  simp only [isLead, isTrail, Bool.and_eq_true, decide_eq_true_eq] at hlead htrail
  have hvalid : code.isValidChar := by
    simp only [Nat.isValidChar]
    omega
  have hunit := Denote.unit (Char.ofNat code) hrest
  rwa [toNat_ofNat hvalid] at hunit

theorem Denote.pair_cons {lead trail : Nat} {pieces : List Piece} {text : List Char}
    (hlead : isLead lead = true) (htrail : isTrail trail = true) (hrest : Denote pieces text) :
    Denote (.unit lead :: .unit trail :: pieces) (pairChar lead trail :: text) := by
  simp only [isLead, isTrail, Bool.and_eq_true, decide_eq_true_eq] at hlead htrail
  have hcode : (pairChar lead trail).toNat =
      0x10000 + (lead - 0xD800) * 0x400 + (trail - 0xDC00) := by
    apply toNat_ofNat
    simp only [Nat.isValidChar]
    omega
  have hpair := Denote.pair (pairChar lead trail) (by omega) hrest
  have hfirst : 0xD800 + ((pairChar lead trail).toNat - 0x10000) / 0x400 = lead := by omega
  have hsecond : 0xDC00 + ((pairChar lead trail).toNat - 0x10000) % 0x400 = trail := by omega
  rwa [hfirst, hsecond] at hpair

/-- Pieces that are decoded stand for the text, if their units have no more than
sixteen bits. -/
theorem denote_of_decodePieces {fault : Option Fault} {pieces : List Piece} {text : List Char}
    (hbound : ∀ code, .unit code ∈ pieces → code < 0x10000)
    (hdecode : decodePieces fault pieces = .ok text) : Denote pieces text := by
  fun_induction decodePieces fault pieces generalizing text with
  | case1 =>
      obtain rfl := Except.ok.inj hdecode
      exact .nil
  | case3 c rest ih =>
      obtain ⟨others, hothers, hok⟩ := Except.bind_eq_ok_iff.mp hdecode
      obtain rfl := Except.ok.inj hok
      exact .char c (ih (fun code hcode => hbound code (.tail _ hcode)) hothers)
  | case5 lead trail rest _ hlead htrail ih =>
      obtain ⟨others, hothers, hok⟩ := Except.bind_eq_ok_iff.mp hdecode
      obtain rfl := Except.ok.inj hok
      have hrest := ih (fun code hcode => hbound code (.tail _ (.tail _ hcode))) hothers
      exact hrest.pair_cons hlead htrail
  | case7 lead trail rest htrail hlead ih =>
      obtain ⟨others, hothers, hok⟩ := Except.bind_eq_ok_iff.mp hdecode
      obtain rfl := Except.ok.inj hok
      have hrest := ih (fun code hcode => hbound code (.tail _ hcode)) hothers
      exact hrest.unit_cons (hbound lead (.head _)) hlead htrail
  | case10 code htrail hlead =>
      obtain rfl := Except.ok.inj hdecode
      exact Denote.nil.unit_cons (hbound code (.head _)) hlead htrail
  | case13 code c rest hplain ih =>
      obtain ⟨others, hothers, hok⟩ := Except.bind_eq_ok_iff.mp hdecode
      obtain rfl := Except.ok.inj hok
      rw [Bool.or_eq_true, not_or] at hplain
      have hrest := ih (fun code hcode => hbound code (.tail _ hcode)) hothers
      exact hrest.unit_cons (hbound code (.head _)) hplain.2 hplain.1
  | case2 | case4 | case6 | case8 | case9 | case11 | case12 => exact nomatch hdecode

theorem lt_of_mem_hexDigits {c : Char} {value : Nat} (hdigit : (c, value) ∈ hexDigits) :
    value < 16 := by
  have hall : ∀ digit ∈ hexDigits, digit.2 < 16 := by decide
  exact hall (c, value) hdigit

theorem StringLiteral.SpelledInside.lt_of_unit_mem {pieces : List Piece} {text : List Char}
    (hinside : SpelledInside pieces text) : ∀ code, .unit code ∈ pieces → code < 0x10000 := by
  induction hinside with
  | close => exact nofun
  | piece hpiece _ ih =>
      intro code hcode
      rcases List.mem_cons.mp hcode with rfl | hcode
      · obtain _ | _ | ⟨ha, hb, hc, hd⟩ := hpiece
        have hi := lt_of_mem_hexDigits ha
        have hj := lt_of_mem_hexDigits hb
        have hk := lt_of_mem_hexDigits hc
        have hl := lt_of_mem_hexDigits hd
        omega
      · exact ih code hcode

/-- A string of the grammar that is read stands for its text. -/
theorem StringLiteral.SpelledAs.denotes {literal : StringLiteral} {written : List Char}
    {text : String} (hliteral : literal.SpelledAs written) (hread : literal.read = .ok text) :
    literal.Denotes text := by
  obtain ⟨hfault, inside, hinside, -⟩ := hliteral
  rw [StringLiteral.read, hfault] at hread
  split at hread
  case h_1 characters hdecode =>
    obtain rfl := Except.ok.inj hread
    refine ⟨hfault, ?_⟩
    rw [String.toList_ofList]
    exact denote_of_decodePieces hinside.lt_of_unit_mem hdecode
  case h_2 => exact nomatch hread

/-- A string is read to its end, so a fault in it is met. -/
theorem eq_none_of_decodePieces {fault : Option Fault} {pieces : List Piece} {text : List Char}
    (hdecode : decodePieces fault pieces = .ok text) : fault = none := by
  fun_induction decodePieces fault pieces generalizing text with
  | case1 | case10 => assumption
  | case3 _ _ ih | case5 _ _ _ _ _ _ ih | case7 _ _ _ _ _ ih | case13 _ _ _ _ ih =>
      obtain ⟨others, hothers, -⟩ := Except.bind_eq_ok_iff.mp hdecode
      exact ih hothers
  | case2 | case4 | case6 | case8 | case9 | case11 | case12 => exact nomatch hdecode

/-- Only a string without a fault is read. -/
theorem StringLiteral.skip_of_read {literal : StringLiteral} {text : String}
    (hread : literal.read = .ok text) : literal.skip = .ok () := by
  rw [StringLiteral.read] at hread
  split at hread
  case h_1 characters hdecode => rw [StringLiteral.skip, eq_none_of_decodePieces hdecode]
  case h_2 => exact nomatch hread

end TableScribe.Json
