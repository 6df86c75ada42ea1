import FramedWire.Proofs.HexText
import Mathlib.Data.List.DropRight
import Mathlib.Data.List.Forall2

/-!
# Spellings of bytes

Just those texts are read as bytes that spell them: without the blanks around it, one `0x` in
front and the white space of ASCII, such a text is a row of digits of either case, two for each
byte. A character beyond ASCII is several bytes, none of which is a digit or white space, so what
is said about bytes by the reader can be said about characters.
-/
namespace FramedWire.Text

structure Trims (cs inner : List Char) : Prop where
  split : ∃ front back, cs = front ++ inner ++ back ∧ ∀ c ∈ front ++ back, isBlank c = true
  head : ∀ c, inner.head? = some c → isBlank c = false
  last : ∀ c, inner.getLast? = some c → isBlank c = false

/-- The characters that count as white space in ASCII. -/
def asciiBlanks : List Char := ['\t', '\n', '\x0C', '\r', ' ']

/-- A text without blanks around, less the `0x` in front and the white space of ASCII. -/
def digitsIn (inner : List Char) : List Char :=
  let body :=
    match inner with
    | '0' :: 'x' :: rest => rest
    | _ => inner
  body.filter (· ∉ asciiBlanks)

/-- A digit in either case. -/
def Denotes (c : Char) (n : Fin 16) : Prop := c = hexDigit n ∨ c = (hexDigit n).toUpper

instance (c : Char) (n : Fin 16) : Decidable (Denotes c n) :=
  inferInstanceAs (Decidable (_ ∨ _))

/-- The digits of some bytes, the high one of each byte first. -/
def nibbles (bs : Bytes) : List (Fin 16) := bs.flatMap fun b => [highDigit b, lowDigit b]

/-- Digits that denote bytes pair by pair. -/
def Spells (ds : List Char) (bs : Bytes) : Prop := List.Forall₂ Denotes ds (nibbles bs)

section Trimming

variable {cs inner front back : List Char}

theorem trims_trim (cs : List Char) : Trims cs (trim cs) := by
  let kept := cs.dropWhile isBlank
  have hback : trim cs ++ kept.rtakeWhile isBlank = kept := List.rdropWhile_append_rtakeWhile
  refine ⟨⟨cs.takeWhile isBlank, kept.rtakeWhile isBlank, ?_, ?_⟩, ?_, ?_⟩
  · rw [List.append_assoc, hback, List.takeWhile_append_dropWhile]
  · intro c hc
    rcases List.mem_append.mp hc with hc | hc
    · exact List.mem_takeWhile_imp hc
    · exact List.mem_rtakeWhile_imp hc
  · intro c hc
    have hkept : kept.head? = some c := by
      rw [← hback, List.head?_append, hc]
      rfl
    have hfirst := List.head?_dropWhile_not isBlank cs
    rwa [hkept] at hfirst
  · intro c hc
    have hlast := List.head?_dropWhile_not isBlank kept.reverse
    rw [← List.head?_reverse, trim, List.reverse_reverse] at hc
    rwa [hc] at hlast

theorem trim_append (hfront : ∀ c ∈ front, isBlank c = true)
    (hback : ∀ c ∈ back, isBlank c = true) : trim (front ++ cs ++ back) = trim cs := by
  have hnone : back.dropWhile isBlank = [] := List.dropWhile_eq_nil_iff.mpr hback
  have hreverse : ∀ c ∈ back.reverse, isBlank c = true := fun c hc =>
    hback c (List.mem_reverse.mp hc)
  rw [trim, List.append_assoc, List.dropWhile_append_of_pos hfront, List.dropWhile_append, hnone]
  split
  · rename_i hempty
    rw [trim, List.isEmpty_iff.mp hempty]
  · rw [trim, List.reverse_append, List.dropWhile_append_of_pos hreverse]

theorem dropWhile_of_head? (h : ∀ c, cs.head? = some c → isBlank c = false) :
    cs.dropWhile isBlank = cs := by
  cases cs with
  | nil => rfl
  | cons c cs =>
    have hc : isBlank c = false := h c rfl
    exact List.dropWhile_cons_of_neg (Bool.eq_false_iff.mp hc)

theorem Trims.eq_trim (h : Trims cs inner) : inner = trim cs := by
  obtain ⟨front, back, hsplit, hblank⟩ := h.split
  have hreverse : ∀ c, inner.reverse.head? = some c → isBlank c = false := by
    intro c hc
    rw [List.head?_reverse] at hc
    exact h.last c hc
  rw [hsplit, trim_append (fun c hc => hblank c (List.mem_append_left back hc))
    (fun c hc => hblank c (List.mem_append_right front hc)), trim, dropWhile_of_head? h.head,
    dropWhile_of_head? hreverse, List.reverse_reverse]

/-- A text that begins with characters that are no blanks is trimmed behind them. -/
theorem trim_cons_append {c : Char} {mark : List Char} (h : ∀ d ∈ c :: mark, isBlank d = false) :
    trim (c :: mark ++ cs) = c :: mark ++ cs.rdropWhile isBlank := by
  have hfront : (c :: mark ++ cs).dropWhile isBlank = c :: mark ++ cs :=
    List.dropWhile_cons_of_neg (Bool.eq_false_iff.mp (h c List.mem_cons_self))
  have hmark : (c :: mark).reverse.dropWhile isBlank = (c :: mark).reverse := by
    rw [List.dropWhile_eq_self_iff]
    intro hpos
    exact Bool.eq_false_iff.mp (h _ (List.mem_reverse.mp (List.getElem_mem hpos)))
  rw [trim, hfront, List.reverse_append, List.dropWhile_append, hmark, List.rdropWhile]
  split
  · rename_i hempty
    rw [List.isEmpty_iff.mp hempty, List.reverse_reverse, List.reverse_nil, List.append_nil]
  · rw [List.reverse_append, List.reverse_reverse]

end Trimming

section Encoding

variable {c : Char} {b : UInt8}

theorem utf8EncodeChar_of_lt (h : c.toNat < 128) :
    String.utf8EncodeChar c = [UInt8.ofNat c.toNat] := by
  have hval : c.val.toNat ≤ 127 := Nat.le_of_lt_succ h
  simp only [String.utf8EncodeChar, if_pos hval]
  rfl

theorem le_of_mem_utf8EncodeChar (h : 128 ≤ c.toNat) (hb : b ∈ String.utf8EncodeChar c) :
    128 ≤ b.toNat := by
  have hbig : ¬ c.val.toNat ≤ 127 := by
    have hval : c.val.toNat = c.toNat := rfl
    omega
  simp only [String.utf8EncodeChar, if_neg hbig] at hb
  split at hb
  · simp only [List.mem_cons, List.not_mem_nil, or_false] at hb
    rcases hb with rfl | rfl <;> simp only [UInt8.toNat_ofNat'] <;> omega
  split at hb
  · simp only [List.mem_cons, List.not_mem_nil, or_false] at hb
    rcases hb with rfl | rfl | rfl <;> simp only [UInt8.toNat_ofNat'] <;> omega
  · simp only [List.mem_cons, List.not_mem_nil, or_false] at hb
    rcases hb with rfl | rfl | rfl | rfl <;> simp only [UInt8.toNat_ofNat'] <;> omega

theorem beyond_ascii : ∀ n : Fin 256, 128 ≤ n.val →
    isAsciiBlank (UInt8.ofNat n) = false ∧
      hexValue (UInt8.ofNat n) = .error (.invalidDigit (UInt8.ofNat n)) := by decide +kernel

theorem isAsciiBlank_of_le (h : 128 ≤ b.toNat) : isAsciiBlank b = false := by
  have hbyte := (beyond_ascii ⟨b.toNat, b.toNat_lt⟩ h).1
  rwa [UInt8.ofNat_toNat] at hbyte

theorem hexValue_of_le (h : 128 ≤ b.toNat) : hexValue b = .error (.invalidDigit b) := by
  have hbyte := (beyond_ascii ⟨b.toNat, b.toNat_lt⟩ h).2
  rwa [UInt8.ofNat_toNat] at hbyte

theorem isAsciiBlank_ofNat : ∀ n : Fin 128,
    isAsciiBlank (UInt8.ofNat n) = decide (Char.ofNat n ∈ asciiBlanks) := by decide +kernel

theorem hexValue_ofNat_iff : ∀ (n : Fin 128) (d : Fin 16),
    hexValue (UInt8.ofNat n) = .ok (UInt8.ofNat d) ↔ Denotes (Char.ofNat n) d := by decide +kernel

theorem toNat_asciiBlanks : ∀ c ∈ asciiBlanks, c.toNat < 128 := by simp [asciiBlanks]

theorem toNat_hexDigit : ∀ n : Fin 16, (hexDigit n).toNat < 128 ∧ (hexDigit n).toUpper.toNat < 128 := by
  decide

theorem toNat_of_denotes {n : Fin 16} (h : Denotes c n) : c.toNat < 128 := by
  rcases h with rfl | rfl
  · exact (toNat_hexDigit n).1
  · exact (toNat_hexDigit n).2

/-- White space of ASCII is one byte, and no byte of any other character is. -/
theorem filter_utf8EncodeChar (c : Char) :
    (String.utf8EncodeChar c).filter (!isAsciiBlank ·) =
      if c ∈ asciiBlanks then [] else String.utf8EncodeChar c := by
  rcases Nat.lt_or_ge c.toNat 128 with hlt | hge
  · have hbyte := isAsciiBlank_ofNat ⟨c.toNat, hlt⟩
    rw [Char.ofNat_toNat] at hbyte
    rw [utf8EncodeChar_of_lt hlt]
    by_cases hc : c ∈ asciiBlanks
    · simp [hbyte, hc]
    · simp [hbyte, hc]
  · have hnone : c ∉ asciiBlanks := fun hc => absurd (toNat_asciiBlanks c hc) (Nat.not_lt.mpr hge)
    rw [if_neg hnone, List.filter_eq_self]
    intro b hb
    rw [isAsciiBlank_of_le (le_of_mem_utf8EncodeChar hge hb)]
    rfl

/-- The bytes that the reader looks at are those of the digits. -/
theorem hexBytes_eq (text : String) :
    hexBytes text = (digitsIn (trim text.toList)).flatMap String.utf8EncodeChar := by
  have hfilter : ∀ cs : List Char, (utf8 (String.ofList cs)).filter (!isAsciiBlank ·) =
      (cs.filter (· ∉ asciiBlanks)).flatMap String.utf8EncodeChar := by
    intro cs
    rw [utf8_ofList, List.filter_flatMap]
    induction cs with
    | nil => rfl
    | cons c cs ih =>
      rw [List.flatMap_cons, ih, filter_utf8EncodeChar]
      by_cases hc : c ∈ asciiBlanks
      · simp [hc]
      · simp [hc]
  exact hfilter _

end Encoding

section Reading

variable {bs bytes : Bytes} {ds : List Char}

theorem lt_of_mem_hexValue : ∀ n : Fin 256, ∀ v ∈ (hexValue (UInt8.ofNat n)).toOption,
    v.toNat < 16 := by decide +kernel

theorem exists_digit_of_hexValue {b v : UInt8} (h : hexValue b = .ok v) :
    ∃ n : Fin 16, v = UInt8.ofNat n := by
  have hmem : v ∈ (hexValue (UInt8.ofNat b.toNat)).toOption := by
    rw [UInt8.ofNat_toNat, h]
    rfl
  exact ⟨⟨v.toNat, lt_of_mem_hexValue ⟨b.toNat, b.toNat_lt⟩ v hmem⟩, UInt8.ofNat_toNat.symm⟩

theorem digits_mul_add : ∀ h l : Fin 16,
    highDigit (UInt8.ofNat h * 16 + UInt8.ofNat l) = h ∧
      lowDigit (UInt8.ofNat h * 16 + UInt8.ofNat l) = l := by decide +kernel

theorem nibbles_cons (b : UInt8) (bs : Bytes) :
    nibbles (b :: bs) = highDigit b :: lowDigit b :: nibbles bs := rfl

theorem length_nibbles (bs : Bytes) : (nibbles bs).length = 2 * bs.length := by
  induction bs with
  | nil => rfl
  | cons b bs ih =>
    rw [nibbles_cons, List.length_cons, List.length_cons, List.length_cons, ih]
    omega

theorem decodePairs_cons_eq_ok_iff {high low : UInt8} {rest : Bytes} :
    decodePairs (high :: low :: rest) = .ok bs ↔
      ∃ h l bs', hexValue high = .ok h ∧ hexValue low = .ok l ∧ decodePairs rest = .ok bs' ∧
        bs = (h * 16 + l) :: bs' := by
  rcases hhigh : hexValue high with e | h
  · simp [decodePairs, hhigh, bind, Except.bind]
  rcases hlow : hexValue low with e | l
  · simp [decodePairs, hhigh, hlow, bind, Except.bind]
  rcases hrest : decodePairs rest with e | bs'
  · simp [decodePairs, hhigh, hlow, hrest, bind, Except.bind]
  · simp [decodePairs, hhigh, hlow, hrest, bind, Except.bind, pure, Except.pure, eq_comm]

/-- The reader of pairs takes the digits of some bytes, and gives these bytes. -/
theorem decodePairs_eq_ok_iff : decodePairs bytes = .ok bs ↔
    List.Forall₂ (fun b (n : Fin 16) => hexValue b = .ok (UInt8.ofNat n)) bytes (nibbles bs) := by
  fun_induction decodePairs bytes generalizing bs with
  | case1 high low rest ih =>
    rw [← decodePairs, decodePairs_cons_eq_ok_iff]
    constructor
    · rintro ⟨h, l, bs', hhigh, hlow, hrest, rfl⟩
      obtain ⟨h, rfl⟩ := exists_digit_of_hexValue hhigh
      obtain ⟨l, rfl⟩ := exists_digit_of_hexValue hlow
      rw [nibbles_cons, (digits_mul_add h l).1, (digits_mul_add h l).2]
      exact .cons hhigh (.cons hlow (ih.mp hrest))
    · intro h
      cases bs with
      | nil => cases h
      | cons b bs =>
        rw [nibbles_cons, List.forall₂_cons, List.forall₂_cons] at h
        obtain ⟨hhigh, hlow, hrest⟩ := h
        exact ⟨_, _, bs, hhigh, hlow, ih.mpr hrest, by rw [highDigit_mul_add_lowDigit]⟩
  | case2 b =>
    constructor <;> intro h
    · cases h
    · have hlength := h.length_eq
      rw [length_nibbles, List.length_singleton] at hlength
      omega
  | case3 =>
    cases bs with
    | nil => exact ⟨fun _ => .nil, fun _ => rfl⟩
    | cons b bs => constructor <;> intro h <;> cases h

/-- The bytes of a text denote digits just if its characters do. -/
theorem forall₂_utf8_iff {ns : List (Fin 16)} :
    List.Forall₂ (fun b (n : Fin 16) => hexValue b = .ok (UInt8.ofNat n))
      (ds.flatMap String.utf8EncodeChar) ns ↔ List.Forall₂ Denotes ds ns := by
  induction ds generalizing ns with
  | nil => rw [List.flatMap_nil, List.forall₂_nil_left_iff, List.forall₂_nil_left_iff]
  | cons c ds ih =>
    rcases Nat.lt_or_ge c.toNat 128 with hlt | hge
    · have hbyte := hexValue_ofNat_iff ⟨c.toNat, hlt⟩
      simp only [Char.ofNat_toNat] at hbyte
      rw [List.flatMap_cons, utf8EncodeChar_of_lt hlt, List.singleton_append]
      cases ns with
      | nil => constructor <;> intro h <;> cases h
      | cons n ns => rw [List.forall₂_cons, List.forall₂_cons, ih, hbyte]
    · constructor
      · intro h
        rcases hencode : String.utf8EncodeChar c with _ | ⟨b, rest⟩
        · exact absurd hencode (String.utf8EncodeChar_ne_nil)
        · rw [List.flatMap_cons, hencode, List.cons_append] at h
          cases h with
          | cons hvalue _ =>
            have hmem : b ∈ String.utf8EncodeChar c := hencode ▸ List.mem_cons_self
            rw [hexValue_of_le (le_of_mem_utf8EncodeChar hge hmem)] at hvalue
            cases hvalue
      · intro h
        cases h with
        | cons hdenotes _ => exact absurd (toNat_of_denotes hdenotes) (Nat.not_lt.mpr hge)

theorem decodeHex_eq_ok_iff {text : String} :
    decodeHex text = .ok bs ↔ Spells (digitsIn (trim text.toList)) bs := by
  rw [Spells, ← forall₂_utf8_iff, ← hexBytes_eq, ← decodePairs_eq_ok_iff, decodeHex]
  split
  · rename_i hodd
    constructor <;> intro h
    · cases h
    · have hlength := (decodePairs_eq_ok_iff.mp h).length_eq
      rw [length_nibbles] at hlength
      omega
  · rfl

theorem exists_spells : ∀ {ds : List Char}, ds.length % 2 = 0 → (∀ c ∈ ds, ∃ n, Denotes c n) →
    ∃ bs, Spells ds bs
  | [], _, _ => ⟨[], .nil⟩
  | [_], hodd, _ => absurd hodd Nat.one_ne_zero
  | high :: low :: ds, heven, hdigits => by
    obtain ⟨h, hhigh⟩ := hdigits high List.mem_cons_self
    obtain ⟨l, hlow⟩ := hdigits low (List.mem_cons_of_mem _ List.mem_cons_self)
    have hrest : ds.length % 2 = 0 := by
      rw [List.length_cons, List.length_cons] at heven
      omega
    obtain ⟨bs, hbs⟩ := exists_spells hrest fun c hc =>
      hdigits c (List.mem_cons_of_mem _ (List.mem_cons_of_mem _ hc))
    refine ⟨(UInt8.ofNat h * 16 + UInt8.ofNat l) :: bs, ?_⟩
    rw [Spells, nibbles_cons, (digits_mul_add h l).1, (digits_mul_add h l).2]
    exact .cons hhigh (.cons hlow hbs)

theorem Spells.denotes (h : Spells ds bs) : ∀ c ∈ ds, ∃ n, Denotes c n := by
  intro c hc
  obtain ⟨i, hi, rfl⟩ := List.getElem_of_mem hc
  exact ⟨_, List.Forall₂.get h hi (h.length_eq ▸ hi)⟩

theorem Spells.even (h : Spells ds bs) : ds.length % 2 = 0 := by
  have hlength := h.length_eq
  rw [length_nibbles] at hlength
  omega

end Reading

section Rewriting

variable {bs : Bytes} {cs body : List Char}

/-- The same letters, each in either case, where `es` has small ones. -/
def SameLetters (ds es : List Char) : Prop := List.Forall₂ (fun d e => d = e ∨ d = e.toUpper) ds es

theorem spells_iff_sameLetters {ds : List Char} :
    Spells ds bs ↔ SameLetters ds (encodeHex bs).toList := by
  have hwritten : (encodeHex bs).toList = (nibbles bs).map fun n : Fin 16 => hexDigit n := by
    rw [encodeHex, String.toList_ofList, nibbles, List.map_flatMap]
    rfl
  rw [SameLetters, hwritten, List.forall₂_map_right_iff]
  rfl

theorem not_blank_of_denotes : ∀ n : Fin 16, isBlank (hexDigit n) = false ∧
    isBlank (hexDigit n).toUpper = false ∧ hexDigit n ≠ 'x' ∧ (hexDigit n).toUpper ≠ 'x' := by decide

/-- A text of digits and white space of ASCII. -/
def Spaced (cs : List Char) : Prop := ∀ c ∈ cs, c ∉ asciiBlanks → ∃ n, Denotes c n

theorem Spaced.filter_of_blank (h : Spaced cs) (hblank : ∀ c ∈ cs, isBlank c = true) :
    cs.filter (· ∉ asciiBlanks) = [] := by
  rw [List.filter_eq_nil_iff]
  intro c hc
  rw [decide_eq_true_iff, not_not]
  by_contra hdigit
  obtain ⟨n, rfl | rfl⟩ := h c hc hdigit
  · cases (not_blank_of_denotes n).1.symm.trans (hblank _ hc)
  · cases (not_blank_of_denotes n).2.1.symm.trans (hblank _ hc)

theorem Spaced.mem_ne (h : Spaced cs) : 'x' ∉ cs := by
  intro hx
  obtain ⟨n, hn | hn⟩ := h 'x' hx (by decide)
  · exact (not_blank_of_denotes n).2.2.1 hn.symm
  · exact (not_blank_of_denotes n).2.2.2 hn.symm

theorem digitsIn_of_not_mem (h : 'x' ∉ cs) : digitsIn cs = cs.filter (· ∉ asciiBlanks) := by
  unfold digitsIn
  split
  · simp at h
  · rfl

/-- The trimming takes none of the digits. -/
theorem digitsIn_trim (h : Spaced body) :
    digitsIn (trim body) = body.filter (· ∉ asciiBlanks) := by
  obtain ⟨front, back, hsplit, hblank⟩ := (trims_trim body).split
  have hspaced : Spaced (front ++ trim body ++ back) := hsplit ▸ h
  have hfront : front.filter (· ∉ asciiBlanks) = [] :=
    Spaced.filter_of_blank (fun c hc => hspaced c (by simp [hc])) fun c hc => hblank c (by simp [hc])
  have hback : back.filter (· ∉ asciiBlanks) = [] :=
    Spaced.filter_of_blank (fun c hc => hspaced c (by simp [hc])) fun c hc => hblank c (by simp [hc])
  have hplain : 'x' ∉ trim body := fun hx => hspaced.mem_ne (by simp [hx])
  rw [digitsIn_of_not_mem hplain]
  conv_rhs => rw [hsplit]
  rw [List.filter_append, List.filter_append, hfront, hback, List.nil_append, List.append_nil]

/-- Neither does the removal of the `0x` in front. -/
theorem digitsIn_trim_mark (h : Spaced body) :
    digitsIn (trim ('0' :: 'x' :: body)) = body.filter (· ∉ asciiBlanks) := by
  have hsplit : body.rdropWhile isBlank ++ body.rtakeWhile isBlank = body :=
    List.rdropWhile_append_rtakeWhile
  have hspaced : Spaced (body.rtakeWhile isBlank) := fun c hc =>
    h c (List.rtakeWhile_suffix isBlank body |>.subset hc)
  have hback : (body.rtakeWhile isBlank).filter (· ∉ asciiBlanks) = [] :=
    hspaced.filter_of_blank fun c hc => List.mem_rtakeWhile_imp hc
  have hmark : ∀ c ∈ ['0', 'x'], isBlank c = false :=
    List.forall_mem_cons.mpr ⟨rfl, List.forall_mem_singleton.mpr rfl⟩
  have htrim : trim ('0' :: 'x' :: body) = '0' :: 'x' :: body.rdropWhile isBlank :=
    trim_cons_append hmark
  conv_rhs => rw [← hsplit, List.filter_append, hback, List.append_nil]
  rw [htrim]
  rfl

end Rewriting

/-- A text is read just if it is an even number of digits, when the blanks around it, one `0x` in
front of it and all white space of ASCII are left out, and what is read are the bytes that its
digits denote pair by pair. So the digits that are written for some bytes are read as these bytes
in any case, with any white space of ASCII between them, with or without `0x` in front and with
any blanks around. -/
theorem decodeHex_exact :
    (∀ text : String, ∃! inner, Trims text.toList inner) ∧
    (∀ (text : String) (inner : List Char), Trims text.toList inner →
      (∀ bs, decodeHex text = .ok bs ↔ Spells (digitsIn inner) bs) ∧
      ((∃ bs, decodeHex text = .ok bs) ↔
        (digitsIn inner).length % 2 = 0 ∧ ∀ c ∈ digitsIn inner, ∃ n, Denotes c n)) ∧
    ∀ (bs : Bytes) (front mark body back : List Char),
      (∀ c ∈ front, isBlank c = true) → (mark = [] ∨ mark = ['0', 'x']) →
      SameLetters (body.filter (· ∉ asciiBlanks)) (encodeHex bs).toList →
      (∀ c ∈ back, isBlank c = true) →
      decodeHex (String.ofList (front ++ mark ++ body ++ back)) = .ok bs := by
  refine ⟨fun text => ⟨_, trims_trim _, fun inner => Trims.eq_trim⟩, ?_, ?_⟩
  · intro text inner htrims
    rw [htrims.eq_trim]
    refine ⟨fun bs => decodeHex_eq_ok_iff, ?_⟩
    simp only [decodeHex_eq_ok_iff]
    constructor
    · rintro ⟨bs, h⟩
      exact ⟨h.even, h.denotes⟩
    · rintro ⟨heven, hdigits⟩
      exact exists_spells heven hdigits
  · intro bs front mark body back hfront hmark hletters hback
    rw [← spells_iff_sameLetters] at hletters
    have hspaced : Spaced body := fun c hc hblank =>
      hletters.denotes c (List.mem_filter.mpr ⟨hc, decide_eq_true hblank⟩)
    rw [decodeHex_eq_ok_iff, String.toList_ofList, List.append_assoc front mark,
      trim_append hfront hback]
    rcases hmark with rfl | rfl
    · rwa [List.nil_append, digitsIn_trim hspaced]
    · rwa [List.cons_append, List.cons_append, List.nil_append, digitsIn_trim_mark hspaced]

/-- Pairs may be torn apart by white space; a blank that is not white space of ASCII is no digit,
and neither is an `X`. -/
example : decodeHex " 0xA b0	C " = .ok [0xAB, 0x0C] ∧
    decodeHex "00" = .error .oddLength ∧
    decodeHex "0X00" = .error (.invalidDigit 0x58) := by decide +kernel

end FramedWire.Text
