import FramedWire.Proofs.Openings
import FramedWire.Proofs.HexText

/-!
# Arguments that are shown and typed in again

Whole numbers, texts, byte arrays and sequences of these are shown as values that are read as the
same arguments. The digits of a number are read from the left, and no part of it is larger than
the number, so the bound that it keeps is kept on the way.
-/
namespace FramedWire

namespace Literal

variable {bound low high : Nat} {overflow : LiteralError} {cs : List Char}

theorem le_ofDigitChars (cs : List Char) (value : Nat) : value ≤ Nat.ofDigitChars 10 cs value := by
  induction cs generalizing value with
  | nil => exact Nat.le_refl value
  | cons c cs ih =>
    have hnext := ih (10 * value + (c.toNat - '0'.toNat))
    rw [Nat.ofDigitChars_cons]
    omega

theorem magnitude_of_digits (hdigits : ∀ c ∈ cs, c.isDigit = true) {value : Nat}
    (hbound : Nat.ofDigitChars 10 cs value ≤ bound) :
    magnitude bound overflow value cs = .ok (Nat.ofDigitChars 10 cs value) := by
  induction cs generalizing value with
  | nil => rfl
  | cons c cs ih =>
    have hc : c.isDigit = true := hdigits c List.mem_cons_self
    have hrest : ∀ d ∈ cs, d.isDigit = true := fun d hd => hdigits d (List.mem_cons_of_mem c hd)
    have hnext : 10 * value + (c.toNat - '0'.toNat) = value * 10 + (c.toNat - 48) := by
      change 10 * value + (c.toNat - 48) = value * 10 + (c.toNat - 48)
      omega
    rw [Nat.ofDigitChars_cons, hnext] at hbound ⊢
    have hle := le_ofDigitChars cs (value * 10 + (c.toNat - 48))
    simp only [magnitude, digit?, hc, if_true]
    rw [if_neg (by omega), ih hrest hbound]

theorem parseInt_of_digits (hne : cs ≠ []) (hdigits : ∀ c ∈ cs, c.isDigit = true)
    (hbound : Nat.ofDigitChars 10 cs 0 ≤ high) :
    parseInt low high cs = .ok (Nat.ofDigitChars 10 cs 0 : Int) := by
  unfold parseInt
  split
  · exact absurd rfl hne
  · exact absurd (hdigits '+' List.mem_cons_self) (by decide)
  · exact absurd (hdigits '-' List.mem_cons_self) (by decide)
  · exact absurd (hdigits '+' List.mem_cons_self) (by decide)
  · exact absurd (hdigits '-' List.mem_cons_self) (by decide)
  · rw [magnitude_of_digits hdigits hbound]
    rfl

theorem parseInt_neg_of_digits (hne : cs ≠ []) (hdigits : ∀ c ∈ cs, c.isDigit = true)
    (hlow : low ≠ 0) (hbound : Nat.ofDigitChars 10 cs 0 ≤ low) :
    parseInt low high ('-' :: cs) = .ok (-(Nat.ofDigitChars 10 cs 0 : Int)) := by
  cases cs with
  | nil => exact absurd rfl hne
  | cons c cs =>
    have hsigned : parseInt low high ('-' :: c :: cs) = if low = 0 then .error .invalidDigit
        else (magnitude low .tooSmall 0 (c :: cs)).map fun (n : Nat) => -(n : Int) := rfl
    rw [hsigned, if_neg hlow, magnitude_of_digits hdigits hbound]
    rfl

theorem isDigit_toDigits (n : Nat) : ∀ c ∈ Nat.toDigits 10 n, c.isDigit = true := fun _ =>
  Nat.isDigit_of_mem_toDigits (by decide) (Nat.le_refl 10)

/-- A whole number within the bounds is read from the text it is shown as. -/
theorem parseInt_text {v : Int} (hlow : -(low : Int) ≤ v) (hhigh : v ≤ high) :
    parseInt low high (JsonNumber.ofInt v).text.toList = .ok v := by
  rcases Int.lt_or_le v 0 with hneg | hnonneg
  · obtain ⟨n, rfl⟩ := Int.eq_negSucc_of_lt_zero hneg
    have htext : (JsonNumber.ofInt (Int.negSucc n)).text.toList = '-' :: Nat.toDigits 10 (n + 1) := by
      rw [JsonNumber.ofInt, if_neg (Int.not_le.mpr hneg), JsonNumber.text, Int.toString_eq_repr,
        Int.repr, String.toList_append, Nat.toList_repr]
      rfl
    rw [htext, parseInt_neg_of_digits Nat.toDigits_ne_nil (isDigit_toDigits _) (by omega)
      (by rw [Nat.ofDigitChars_ten_toDigits]; omega), Nat.ofDigitChars_ten_toDigits]
    rfl
  · obtain ⟨n, rfl⟩ := Int.eq_ofNat_of_zero_le hnonneg
    have htext : (JsonNumber.ofInt (n : Int)).text.toList = Nat.toDigits 10 n := by
      rw [JsonNumber.ofInt, if_pos hnonneg, JsonNumber.text, Int.toNat_natCast, Nat.toString_eq_repr,
        Nat.toList_repr]
    rw [htext, parseInt_of_digits Nat.toDigits_ne_nil (isDigit_toDigits _)
      (by rw [Nat.ofDigitChars_ten_toDigits]; omega), Nat.ofDigitChars_ten_toDigits]

end Literal

/-- The types whose values are shown without loss: whole numbers, texts, byte arrays and sequences
of these. -/
inductive ArgType.Plain : ArgType → Prop
  | int : Plain .int
  | uint : Plain .uint
  | string : Plain .string
  | array : Plain .array
  | sequence {element : ArgType} : Plain element → Plain (.sequence element)

namespace ArgText

theorem parseScalar_int (v : Int32) :
    parseScalar .int (JsonNumber.ofInt v.toInt).text = .ok (.int v) := by
  have hlow : Int32.minValue.toInt ≤ v.toInt := v.minValue_le_toInt
  have hhigh : v.toInt ≤ Int32.maxValue.toInt := v.toInt_le
  have hread : Literal.parseInt Int32.minValue.toInt.natAbs Int32.maxValue.toInt.natAbs
      (JsonNumber.ofInt v.toInt).text.toList = .ok v.toInt :=
    Literal.parseInt_text (by omega) (by omega)
  simp only [parseScalar, Literal.parseInt32, hread, Except.map, Except.mapError, Int32.ofInt_toInt]

theorem parseScalar_uint (v : UInt32) :
    parseScalar .uint (JsonNumber.natural v.toNat).text = .ok (.uint v) := by
  have hhigh : v.toNat < UInt32.size := v.toNat_lt
  have hread : Literal.parseInt 0 (UInt32.size - 1) (JsonNumber.natural v.toNat).text.toList =
      .ok (v.toNat : Int) := by
    have hnatural : JsonNumber.natural v.toNat = .ofInt (v.toNat : Int) := by
      rw [JsonNumber.ofInt, if_pos (Int.natCast_nonneg _), Int.toNat_natCast]
    rw [hnatural]
    exact Literal.parseInt_text (by omega) (by omega)
  simp only [parseScalar, Literal.parseUInt32, Literal.parseUInt, hread, Except.map,
    Except.mapError, Int.toNat_natCast, UInt32.ofNat_toNat]

theorem parseScalar_array (v : Bytes) : parseScalar .array (Text.encodeHex v) = .ok (.array v) := by
  simp only [parseScalar, Text.decodeHex_encodeHex, Except.map, Except.mapError]

theorem toJsonAll_eq_map (items : List Arg) : toJsonAll items = items.map toJson := by
  induction items with
  | nil => rfl
  | cons item items ih => rw [toJsonAll, ih, List.map_cons]

section

variable {σ : Type} (openFile : OpenFile σ)

theorem ofJson_of_parseScalar {ty : ArgType} {value : Json} {text : String} {arg : Arg}
    (hfd : ty ≠ .fd) (hsequence : ∀ element, ty ≠ .sequence element)
    (hvalue : value = .string text ∨ ∃ n, value = .number n ∧ n.text = text)
    (h : parseScalar ty text = .ok arg) (s : σ) : ofJson openFile ty value s = .done arg s := by
  rw [ofJson_scalar hsequence]
  rcases hvalue with rfl | ⟨n, rfl, rfl⟩
  all_goals
    simp only [scalarOfJson, if_neg hfd, ofExcept, h]
    rfl

/-- What is shown of an argument is read as this argument, and opens nothing. -/
theorem ofJson_toJson {ty : ArgType} {arg : Arg} (hty : ty.Plain) (h : arg.conformsTo ty = true)
    (s : σ) : ofJson openFile ty (toJson arg) s = .done arg s := by
  induction hty generalizing arg s with
  | int =>
    cases arg with
    | int v =>
      exact ofJson_of_parseScalar openFile (by nofun) (by nofun) (.inr ⟨_, rfl, rfl⟩)
        (parseScalar_int v) s
    | _ => cases h
  | uint =>
    cases arg with
    | uint v =>
      exact ofJson_of_parseScalar openFile (by nofun) (by nofun) (.inr ⟨_, rfl, rfl⟩)
        (parseScalar_uint v) s
    | _ => cases h
  | string =>
    cases arg with
    | string v => rfl
    | _ => cases h
  | array =>
    cases arg with
    | array v =>
      exact ofJson_of_parseScalar openFile (by nofun) (by nofun) (.inl rfl)
        (parseScalar_array v) s
    | _ => cases h
  | @sequence element _ ih =>
    cases arg with
    | sequence items =>
      rw [Arg.conformsTo, Arg.allConformTo_eq_all, List.all_eq_true] at h
      have hitems : Step.collect Arg.descriptors (ofJson openFile element) (items.map toJson) s =
          .done items s := Step.collect_map_of_done (fun item hitem => ih (h item hitem)) s
      rw [toJson, toJsonAll_eq_map, ofJson, hitems]
      rfl
    | _ => cases h

/-- Whatever argument of a plain type is shown, what is shown stands for this argument: it is read
as the argument itself, at any depth and in any state of the world, and no file is opened for it.
So does a text on the command line, if its JSON value is the one that was shown. -/
theorem shown_reads_back {ty : ArgType} {arg : Arg} (hty : ty.Plain)
    (h : arg.conformsTo ty = true) (s : σ) :
    ofJson openFile ty (toJson arg) s = .done arg s ∧
      ∀ element text, ty = .sequence element → Json.parse text = .ok (toJson arg) →
        parse openFile ty text s = .done arg s := by
  have hread := ofJson_toJson openFile hty h s
  refine ⟨hread, ?_⟩
  rintro element text rfl hparse
  simp only [parse, hparse, hread]

/-- The least number, an empty sequence and spaces between the values. -/
theorem shown_reads_back_nested :
    let shown : Arg := .sequence [.sequence [.int (-2147483648), .int 7], .sequence []]
    shown.conformsTo (.sequence (.sequence .int)) = true ∧
      Json.parse "[[-2147483648, 7], []]" = .ok (toJson shown) ∧
      parse FileSystem.empty.openFile (.sequence (.sequence .int)) "[[-2147483648, 7], []]" 3 =
        .done shown 3 := by
  intro shown
  have hconf : shown.conformsTo (.sequence (.sequence .int)) = true := rfl
  have htext : Json.parse "[[-2147483648, 7], []]" = .ok (toJson shown) := rfl
  exact ⟨hconf, htext, (shown_reads_back _ (.sequence (.sequence .int)) hconf 3).2 _ _ rfl htext⟩

end

end ArgText

end FramedWire
