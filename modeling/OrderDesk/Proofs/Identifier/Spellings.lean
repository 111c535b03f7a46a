import OrderDesk.Native
import OrderDesk.Proofs.Identifier.ChainIdGrammar
import OrderDesk.Proofs.Identifier.Forms

/-!
# Proofs/Identifier/Spellings — all spellings of a chain id agree, and all of a key

    0 … 0 ⌢ decimal digits      0x ⌢ 0 … 0 ⌢ digits      0 … 0 ⌢ digits, a letter among them

A number is spelled in decimal or in hexadecimal, behind any zeros; a chain id is also an integer or
bytes, and a key is bytes or their digits.  The numerals of a number are texts of the grammar that
denote it (`IsNumeral.denotes`), so that each of them is read as the chain with this number, or is an
overflow if there is none (`Denotes.reads`).  Zeros in front count among bytes, but not among digits:
nine bytes are an overflow whatever their number is (`spellings_agree`).
-/

namespace OrderDesk

open Json (Codec Document Fault Value)

variable {bytes : List UInt8} {cs ds : List Char} {n : Nat} {s : String}

/-! ## What a codec makes of a value -/

namespace Json

variable {α : Type} {c : Codec α} {v : Value} {r : Except Fault α} {bits room : Nat}

/-- **What a codec makes of a value,** of its text and as a free value. -/
structure Codec.Takes (c : Codec α) (v : Value) (r : Except Fault α) : Prop where
  text : c.read v.render = r
  free : c.ofValue v = r

theorem Codec.takes_of_decode (hfits : v.Fits bits room) (hroom : room ≤ Document.maxDepth)
    (h : ∀ o d, Spells d v → c.decode o d = r) : c.Takes v r where
  text := by
    have hread := Document.read_render_of_depth hfits.hasDouble (Nat.le_trans hfits.depth_le hroom)
    rw [Codec.read, hread, Codec.ofReading, h .text _ (spells_ofValue v)]
    cases r <;> rfl
  free := h .value _ (spells_ofValue v)

/-- A value that is carried is taken back. -/
theorem Codec.Carries.takes {a : α} (h : c.Carries bits room a) (hroom : room ≤ Document.maxDepth) :
    c.Takes (c.encode a) (.ok a) :=
  Codec.takes_of_decode h.fits hroom h.keeps

theorem Codec.takes_string (h : ∀ o, c.decode o (.string s) = r) : c.Takes (.string s) r := by
  have hfits : (Value.string s).Fits 64 0 := trivial
  refine Codec.takes_of_decode hfits (Nat.zero_le _) ?_
  rintro o d ⟨⟩
  exact h o

/-- A list of bytes is taken for its bytes. -/
theorem Codec.takes_bytesValue (make : List UInt8 → Except Fault α)
    (h : ∀ o ds, c.decode o (.array ds) = (ChainId.readBytes o ds).bind make) :
    c.Takes (ChainAddress.bytesValue bytes) (make bytes) := by
  have hcarries : Codec.byte.list.Carries 64 1 bytes := .list fun b _ => .byte b
  refine Codec.takes_of_decode hcarries.fits (by decide) ?_
  rintro o d ⟨⟩
  next ds hitems =>
    have hread : ChainId.readBytes o ds = .ok bytes := hcarries.keeps o _ (.array hitems)
    rw [h, hread]
    rfl

end Json

/-- **What bytes are read as:** by themselves, as a list in JSON, and in a binary format. -/
structure ReadsBytes {α : Type} (ofByteList : List UInt8 → Except Error α) (codec : Codec α)
    (ofNative : Native → Except Fault α) (bytes : List UInt8) (r : Except Error α) : Prop where
  slice : ofByteList bytes = r
  list : codec.Takes (ChainAddress.bytesValue bytes) (ChainId.reported r)
  native : ofNative (.bytes bytes) = ChainId.reported r

/-! ## Bytes at a width -/

/-- Bytes up to a width are filled up with zeros in front… -/
theorem padLeft_of_le (what : String) (h : bytes.length ≤ n) :
    ∃ p, padLeft n what bytes = .ok p ∧ p.toList = List.replicate (n - bytes.length) 0 ++ bytes := by
  obtain ⟨p, hp⟩ := FixedBytes.exists_toList_eq h
  refine ⟨p, ?_, hp⟩
  rw [padLeft, FixedBytes.padLeft?_eq_some_iff.mpr hp]

/-- …and more bytes overflow. -/
theorem padLeft_of_lt {what : String} (h : n < bytes.length) :
    padLeft n what bytes = .error (.overflow (.width what bytes.length n)) := by
  have hpad : FixedBytes.padLeft? (n := n) bytes = none := by
    refine Option.eq_none_iff_forall_ne_some.mpr fun p hp => ?_
    have hlength := congrArg List.length (FixedBytes.padLeft?_eq_some_iff.mp hp)
    rw [p.length_eq, List.length_append, List.length_replicate] at hlength
    omega
  rw [padLeft, hpad]

/-- Few bytes denote small numbers. -/
theorem Bytes.toNat_lt_of_le (h : bytes.length ≤ n) : toNat bytes < Nat.pow 256 n :=
  Nat.lt_of_lt_of_le (toNat_lt bytes) (Nat.pow_le_pow_right (by decide) h)

/-! ## Digits of either case -/

namespace Hex

theorem number_append_singleton (ds : List Char) (c : Char) :
    number (ds ++ [c]) = extend (number ds) c := by
  rw [number, List.foldl_append]
  rfl

theorem digitChar_eq : ∀ n < 16, Nat.digitChar n = digit n := by decide

theorem value?_of_toLower {c : Char} (hn : n < 16) (h : c.toLower = Nat.digitChar n) :
    value? c = some n :=
  value?_eq_some_iff.mpr ⟨hn, h.trans (digitChar_eq n hn)⟩

/-- **The digits of a number,** of either case and behind any zeros. -/
def IsDigits (n : Nat) (cs : List Char) : Prop :=
  ∃ k ds, cs = List.replicate k '0' ++ ds ∧ ds.map Char.toLower = Nat.toDigits 16 n

theorem IsDigits.ne_nil (h : IsDigits n cs) : cs ≠ [] := by
  obtain ⟨k, ds, rfl, hds⟩ := h
  refine List.append_ne_nil_of_right_ne_nil _ ?_
  rintro rfl
  exact Nat.toDigits_ne_nil hds.symm

theorem IsDigits.isDigit (h : IsDigits n cs) : ∀ c ∈ cs, isDigit c = true := by
  obtain ⟨k, ds, rfl, hds⟩ := h
  intro c hc
  rcases List.mem_append.mp hc with hc | hc
  · rw [List.eq_of_mem_replicate hc]
    rfl
  · have hmem : c.toLower ∈ Nat.toDigits 16 n := hds ▸ List.mem_map_of_mem hc
    obtain ⟨m, hm, heq⟩ := Amount.exists_digitChar_of_mem_toDigits hmem
    rw [Hex.isDigit, value?_of_toLower hm heq]
    rfl

theorem number_of_toLower (h : ds.map Char.toLower = Nat.toDigits 16 n) : number ds = n := by
  induction n using Nat.strongRecOn generalizing ds with
  | _ n ih =>
    by_cases hn : n < 16
    · rw [Nat.toDigits_of_lt_base hn] at h
      obtain ⟨c, rfl, hc⟩ := List.map_eq_singleton_iff.mp h
      change 16 * 0 + (value? c).getD 0 = n
      rw [value?_of_toLower hn hc, Option.getD_some]
      omega
    · rw [Nat.toDigits_of_base_le (by decide) (by omega)] at h
      obtain ⟨high, low, rfl, hhigh, hlow⟩ := List.map_eq_append_iff.mp h
      obtain ⟨c, rfl, hc⟩ := List.map_eq_singleton_iff.mp hlow
      rw [number_append_singleton, ih (n / 16) (by omega) hhigh, extend,
        value?_of_toLower (Nat.mod_lt _ (by decide)) hc, Option.getD_some]
      omega

/-- **…denote it.** -/
theorem IsDigits.number_eq (h : IsDigits n cs) : number cs = n := by
  obtain ⟨k, ds, rfl, hds⟩ := h
  rw [← number_of_toLower hds]
  induction k with
  | zero => rfl
  | succ k ih => exact ih

end Hex

namespace ChainId

/-! ## Numerals -/

/-- **The numerals of a number,** behind any zeros: its decimal digits, and its hexadecimal digits of
either case with `0x`, or without it if there is a letter among them. -/
inductive IsNumeral (n : Nat) : List Char → Prop
  | decimal (k : Nat) : IsNumeral n (List.replicate k '0' ++ Nat.toDigits 10 n)
  | marked {ds : List Char} (hds : Hex.IsDigits n ds) : IsNumeral n ('0' :: 'x' :: ds)
  | bare {ds : List Char} (hds : Hex.IsDigits n ds)
      (hletter : ∃ c ∈ ds, Numeral.isDigit c = false) : IsNumeral n ds

/-- **A numeral is a text of the grammar, and denotes its number.** -/
theorem IsNumeral.denotes (h : IsNumeral n cs) : Denotes cs n := by
  cases h with
  | decimal k =>
    obtain ⟨hne, hall⟩ := Numeral.isDecimal_iff.mp (Numeral.isDecimal_replicate_append k n)
    have hn := Numeral.decimal?_replicate_append k n
    rw [Numeral.decimal?, if_pos (Numeral.isDecimal_replicate_append k n)] at hn
    exact .decimal hne hall (Option.some.inj hn).symm
  | marked hds =>
    exact .hexadecimal _ (.inr rfl) hds.ne_nil hds.isDigit ⟨'x', by simp, by decide⟩
      hds.number_eq.symm
  | bare hds hletter =>
    exact .hexadecimal _ (.inl rfl) hds.ne_nil hds.isDigit hletter hds.number_eq.symm

/-! ## What numerals are read as -/

/-- **What is read of a number:** the chain with this number, or an overflow if there is none. -/
inductive Reads (n : Nat) : Except Error ChainId → Prop
  | chain (hlt : n < Nat.pow 2 64) : Reads n (.ok ⟨.ofNat n⟩)
  | overflow (hle : Nat.pow 2 64 ≤ n) (e : Excess) : Reads n (.error (.overflow e))

/-- At most eight bytes are the chain with their number… -/
theorem ofByteList_of_le (h : bytes.length ≤ 8) :
    ofByteList bytes = .ok ⟨.ofNat (Bytes.toNat bytes)⟩ := by
  have hvalue : (UInt64.ofNat (Bytes.toNat bytes)).toNat = Bytes.toNat bytes :=
    UInt64.toNat_ofNat_of_lt (Bytes.toNat_lt_of_le (n := 8) h)
  refine ofByteList_eq_ok_iff.mpr ?_
  rw [← Bytes.ofNat_toNat_of_le h]
  exact congrArg (Bytes.ofNat 8) hvalue

/-- …and more bytes overflow. -/
theorem ofByteList_of_lt (h : 8 < bytes.length) :
    ofByteList bytes = .error (.overflow (.width "chain id" bytes.length 8)) := by
  rw [ofByteList, padLeft_of_lt h]
  rfl

/-- Without zeros in front, bytes are read by their number alone. -/
theorem reads_dropWhile (bytes : List UInt8) :
    Reads (Bytes.toNat bytes) (ofByteList (bytes.dropWhile (· = 0))) := by
  rcases Nat.lt_or_ge (Bytes.toNat bytes) (Nat.pow 2 64) with hlt | hle
  · rw [ofByteList_of_le (Bytes.length_dropWhile_le hlt), Bytes.toNat_dropWhile]
    exact .chain hlt
  · have hlength : 8 < (bytes.dropWhile (· = 0)).length := by
      by_contra hshort
      have hlt := Bytes.toNat_lt_of_le (n := 8) (Nat.le_of_not_lt hshort)
      rw [Bytes.toNat_dropWhile] at hlt
      exact Nat.not_le_of_lt hlt hle
    rw [ofByteList_of_lt hlength]
    exact .overflow hle _

/-- Whichever of the two readings takes a text gives its bytes, without zeros in front. -/
theorem parseHex_eq
    (h : decodeHex cs = .ok bytes ∨ decodeHex ('0' :: Hex.dropMarker cs) = .ok bytes) :
    parseHex cs = ofByteList (bytes.dropWhile (· = 0)) := by
  cases hfirst : decodeHex cs with
  | ok bytes' =>
    rcases h with h | h
    · simp only [parseHex, h]
      rfl
    · exact absurd h (decodeHex_zero_ne hfirst bytes)
  | error e =>
    rcases h with h | h
    · rw [hfirst] at h
      contradiction
    · simp only [parseHex, hfirst, h]
      rfl

/-- **Digits behind an optional `0x` are read by their number,** odd or even as many as they are. -/
theorem reads_parseHex (hmarks : Hex.Marks ds cs) (hd : ∀ c ∈ ds, Hex.isDigit c = true) :
    Reads (Hex.number ds) (parseHex cs) := by
  obtain ⟨bytes, hread, hnumber⟩ := exists_decodeHex hmarks hd
  rw [parseHex_eq hread, ← hnumber]
  exact reads_dropWhile bytes

/-- **A text that denotes a number is read as its chain,** or overflows if there is none. -/
theorem Denotes.reads (h : Denotes s.toList n) : Reads n (parse s) := by
  have hsome := h.ne
  rcases h with ⟨hne, hall, rfl⟩ | ⟨ds, hmarks, -, hd, ⟨c, hc, hdigit⟩, rfl⟩
  · have hn : Numeral.decimal? s.toList = some (Nat.ofDigitChars 10 s.toList 0) :=
      if_pos (Numeral.isDecimal_iff.mpr ⟨hne, hall⟩)
    generalize Nat.ofDigitChars 10 s.toList 0 = n at hn ⊢
    simp only [parse, if_neg hsome, hn]
    split
    · next hlt => exact .chain hlt
    · next hle => exact .overflow (Nat.le_of_not_lt hle) _
  · simp only [parse, if_neg hsome, Numeral.decimal?_eq_none hc hdigit]
    exact reads_parseHex hmarks hd

/-- A chain id is read back from what is displayed of it. -/
theorem parse_text (c : ChainId) : parse c.text = .ok c := by
  have hn : Numeral.decimal? c.text.toList = some c.value.toNat := by
    rw [text, Numeral.decimal, String.toList_ofList, Numeral.decimal?_toDigits]
  exact (parse_eq_ok_iff_of_decimal hn).mpr rfl

/-- Bytes are read alike in every form. -/
theorem readsBytes (bytes : List UInt8) :
    ReadsBytes ofByteList codec ofNative bytes (ofByteList bytes) where
  slice := rfl
  list := Codec.takes_bytesValue (fun bytes => reported (ofByteList bytes)) fun _ _ => rfl
  native := rfl

/-- **What each spelling of a number is read as.** -/
structure Agrees (n : Nat) : Prop where
  /-- A text, by itself and in JSON. -/
  numeral : ∀ s : String, IsNumeral n s.toList →
    Reads n (parse s) ∧ codec.Takes (.string s) (reported (parse s))
  /-- An integer in JSON, which is what is written. -/
  integer : n < Nat.pow 2 64 →
    codec.encode ⟨.ofNat n⟩ = .nat n ∧ codec.Takes (.nat n) (.ok ⟨.ofNat n⟩)
  /-- Bytes, the most significant first. -/
  bytes : ∀ bytes, bytes.length ≤ 8 → Bytes.toNat bytes = n →
    ReadsBytes ofByteList codec ofNative bytes (.ok ⟨.ofNat n⟩)
  /-- What is displayed. -/
  displayed : n < Nat.pow 2 64 → parse (text ⟨.ofNat n⟩) = .ok ⟨.ofNat n⟩

theorem agrees (n : Nat) : Agrees n where
  numeral s h := ⟨h.denotes.reads, Codec.takes_string fun _ => rfl⟩
  integer hlt := by
    have hencode : codec.encode ⟨.ofNat n⟩ = .nat n :=
      congrArg Value.nat (UInt64.toNat_ofNat_of_lt hlt)
    have hcarries : codec.Carries 64 0 ⟨.ofNat n⟩ := carries _
    exact ⟨hencode, hencode ▸ hcarries.takes (Nat.zero_le _)⟩
  bytes bytes hle h := by
    subst h
    exact ofByteList_of_le hle ▸ readsBytes bytes
  displayed _ := parse_text _

end ChainId

/-! ## Keys -/

namespace PublicKey

/-- At most 32 bytes are a key, behind zeros up to its width… -/
theorem exists_ofByteList_eq (h : bytes.length ≤ 32) :
    ∃ k, ofByteList bytes = .ok k
      ∧ k.bytes.toList = List.replicate (32 - bytes.length) 0 ++ bytes := by
  obtain ⟨p, hpad, hp⟩ := padLeft_of_le "public key" h
  refine ⟨⟨p⟩, ?_, hp⟩
  rw [ofByteList, hpad]
  rfl

/-- …and more bytes overflow. -/
theorem ofByteList_of_lt (h : 32 < bytes.length) :
    ofByteList bytes = .error (.overflow (.width "public key" bytes.length 32)) := by
  rw [ofByteList, padLeft_of_lt h]
  rfl

/-- The texts of bytes are read as the bytes. -/
theorem parse_of_isText (h : Hex.IsText bytes s.toList) : parse s = ofByteList bytes := by
  obtain ⟨ds, hmarks, hspells⟩ := h
  rw [parse, ChainId.decodeHex_iff.mpr ⟨ds, hspells, .inl hmarks⟩]
  rfl

/-- **What each spelling of bytes is read as.** -/
structure ReadsAs (bytes : List UInt8) (r : Except Error PublicKey) : Prop
    extends ReadsBytes ofByteList codec ofNative bytes r where
  /-- A text, by itself and in JSON. -/
  text : ∀ s : String, Hex.IsText bytes s.toList →
    parse s = r ∧ codec.Takes (.string s) (ChainId.reported r)

theorem readsAs (bytes : List UInt8) : ReadsAs bytes (ofByteList bytes) where
  slice := rfl
  list :=
    Codec.takes_bytesValue (fun bytes => ChainId.reported (ofByteList bytes)) fun _ _ => rfl
  native := rfl
  text s h := by
    refine ⟨parse_of_isText h, Codec.takes_string fun _ => ?_⟩
    exact congrArg ChainId.reported (parse_of_isText h)

end PublicKey

/-! ## The spellings agree -/

/-- **All spellings agree.**  The numerals of a number, the integer and its bytes up to eight are read
as the one chain with this number; a numeral that is too large overflows, and so do more bytes.  Up to
32 bytes are one key, with zeros in front, in every spelling, and more overflow. -/
theorem spellings_agree :
    (∀ n, ChainId.Agrees n)
    ∧ (∀ bytes, 8 < bytes.length →
        ReadsBytes ChainId.ofByteList ChainId.codec ChainId.ofNative bytes
          (.error (.overflow (.width "chain id" bytes.length 8))))
    ∧ (∀ bytes, bytes.length ≤ 32 →
        ∃ k, k.bytes.toList = List.replicate (32 - bytes.length) 0 ++ bytes
          ∧ PublicKey.ReadsAs bytes (.ok k))
    ∧ (∀ bytes, 32 < bytes.length →
        PublicKey.ReadsAs bytes (.error (.overflow (.width "public key" bytes.length 32))))
    ∧ ∀ k, PublicKey.parse k.text = .ok k := by
  refine ⟨ChainId.agrees, fun bytes hlt => ?_, fun bytes hle => ?_, fun bytes hlt => ?_,
    PublicKey.parse_text⟩
  · exact ChainId.ofByteList_of_lt hlt ▸ ChainId.readsBytes bytes
  · obtain ⟨k, hread, hk⟩ := PublicKey.exists_ofByteList_eq hle
    exact ⟨k, hk, hread ▸ PublicKey.readsAs bytes⟩
  · exact PublicKey.ofByteList_of_lt hlt ▸ PublicKey.readsAs bytes

/-- An odd number of digits of both cases, and the least number that is too large. -/
theorem spellings_agree_odd :
    ChainId.Reads 11155111 (ChainId.parse "0x0aA36A7")
      ∧ ChainId.Reads (Nat.pow 2 64) (ChainId.parse "0x010000000000000000")
      ∧ ChainId.ofByteList [0, 0xaa, 0x36, 0xa7] = .ok ⟨11155111⟩
      ∧ ∃ k, PublicKey.parse "0xaB" = .ok k ∧ k.bytes.toList = List.replicate 31 0 ++ [0xab] := by
  obtain ⟨hagrees, -, hkeys, -, -⟩ := spellings_agree
  have hodd : Hex.IsDigits 11155111 "0aA36A7".toList := ⟨1, "aA36A7".toList, rfl, by decide⟩
  have hlarge : Hex.IsDigits (Nat.pow 2 64) "010000000000000000".toList :=
    ⟨1, "10000000000000000".toList, rfl, by decide⟩
  obtain ⟨k, hk, hreads⟩ := hkeys [0xab] (by decide)
  refine ⟨((hagrees _).numeral _ (.marked hodd)).1, ((hagrees _).numeral _ (.marked hlarge)).1, ?_,
    k, (hreads.text "0xaB" ⟨"aB".toList, .inr rfl, rfl⟩).1, hk⟩
  exact ((hagrees 11155111).bytes [0, 0xaa, 0x36, 0xa7] (by decide) (by decide)).slice

end OrderDesk
