import OrderDesk.Crypto.Gcm
import Mathlib.Data.List.Basic

/-!
# Proofs/Crypto/Gcm — what is hidden is uncovered

    32-byte key ──▸ keys of 16 bytes ──▸ blocks of 16 bytes ──▸ stream

Every step of the cipher keeps the sixteen bytes of a block (`length_encryptBlock`), so the stream is
as long as the text and more, and adding it twice gives the text back (`cover_cover`).  Decrypting
therefore undoes encrypting, and a text is sixteen bytes shorter than what it was hidden in.
-/

namespace OrderDesk

namespace Aes

/-! ## Lengths -/

theorem length_xor (xs ys : List UInt8) : (xor xs ys).length = min xs.length ys.length :=
  List.length_zipWith

/-- Adding the same bytes twice changes nothing. -/
theorem xor_xor : ∀ {xs ys : List UInt8}, xs.length ≤ ys.length → xor (xor xs ys) ys = xs
  | [], _, _ => by rw [xor, xor, List.zipWith_nil_left, List.zipWith_nil_left]
  | x :: xs, [], h => absurd h (Nat.not_succ_le_zero _)
  | x :: xs, y :: ys, h => by
      have hrest : xor (xor xs ys) ys = xs := xor_xor (Nat.le_of_succ_le_succ h)
      simp only [xor, List.zipWith_cons_cons] at hrest ⊢
      rw [hrest, UInt8.xor_assoc, UInt8.xor_self, UInt8.xor_zero]

/-- **A key schedule:** every round key has sixteen bytes. -/
def IsSchedule (keys : List (List UInt8)) : Prop := ∀ key ∈ keys, key.length = 16

variable {α : Type}

theorem length_of_mem_groups {size : Nat} : ∀ {count : Nat} {xs g : List α},
    size * count ≤ xs.length → g ∈ groups size count xs → g.length = size ∧ ∀ x ∈ g, x ∈ xs
  | 0, _, _, _, hg => absurd hg List.not_mem_nil
  | count + 1, xs, g, h, hg => by
      rw [Nat.mul_succ] at h
      rcases List.mem_cons.mp hg with rfl | hg
      · exact ⟨List.length_take_of_le (by omega), fun x hx => List.mem_of_mem_take hx⟩
      · have hlen : size * count ≤ (xs.drop size).length := by
          rw [List.length_drop]
          omega
        obtain ⟨hsize, hmem⟩ := length_of_mem_groups hlen hg
        exact ⟨hsize, fun x hx => List.mem_of_mem_drop (hmem x hx)⟩

theorem length_groups (size : Nat) : ∀ (count : Nat) (xs : List α),
    (groups size count xs).length = count
  | 0, _ => rfl
  | count + 1, xs => by rw [groups, List.length_cons, length_groups size count]

/-- Lists of one length make a list of as many times that length. -/
theorem length_flatten_of_length {size : Nat} {xss : List (List α)}
    (h : ∀ xs ∈ xss, xs.length = size) : xss.flatten.length = xss.length * size := by
  have hall : xss.map List.length = List.replicate xss.length size := by
    rw [List.eq_replicate_iff, List.length_map]
    refine ⟨rfl, fun n hn => ?_⟩
    obtain ⟨xs, hxs, rfl⟩ := List.mem_map.mp hn
    exact h xs hxs
  rw [List.length_flatten, hall, List.sum_replicate_nat]

theorem length_nextWord {i : Nat} {constant : UInt8} {previous eightBack : List UInt8}
    (hp : previous.length = 4) (he : eightBack.length = 4) :
    (nextWord i constant previous eightBack).length = 4 := by
  rw [nextWord, length_xor, he]
  split
  · simp [length_xor, hp]
  · split <;> simp [hp]

/-- The schedule has as many words as asked for, of four bytes each. -/
theorem extend_words : ∀ (count : Nat) (constant : UInt8) {w : Array (List UInt8)}, 8 ≤ w.size →
    (∀ word ∈ w, word.length = 4) → (extend count constant w).size = w.size + count
      ∧ ∀ word ∈ extend count constant w, word.length = 4
  | 0, _, _, _, hw => ⟨rfl, hw⟩
  | count + 1, constant, w, hsize, hw => by
      have hget : ∀ i, i < w.size → (w[i]!).length = 4 := fun i hi => by
        rw [getElem!_pos w i hi]
        exact hw _ (Array.getElem_mem hi)
      have hnext : ∀ word ∈ w.push (nextWord w.size constant w[w.size - 1]! w[w.size - 8]!),
          word.length = 4 := fun word hword => by
        rcases Array.mem_push.mp hword with hword | rfl
        · exact hw word hword
        · exact length_nextWord (hget _ (by omega)) (hget _ (by omega))
      have hrest := extend_words count (if w.size % 8 = 0 then double constant else constant)
        (by rw [Array.size_push]; omega) hnext
      rw [Array.size_push] at hrest
      exact ⟨by rw [extend, hrest.1]; omega, hrest.2⟩

/-- **The round keys of a 32-byte key** have sixteen bytes each. -/
theorem isSchedule_roundKeys {key : List UInt8} (hkey : key.length = 32) :
    IsSchedule (roundKeys key) := by
  have hwords : ∀ word ∈ (groups 4 8 key).toArray, word.length = 4 := fun word hword =>
    (length_of_mem_groups (by omega) (List.mem_toArray.mp hword)).1
  have hstart : (groups 4 8 key).toArray.size = 8 := by rw [List.size_toArray, length_groups]
  obtain ⟨hsize, hlen⟩ := extend_words 52 1 (Nat.le_of_eq hstart.symm) hwords
  intro roundKey hmem
  obtain ⟨g, hg, rfl⟩ := List.mem_map.mp hmem
  obtain ⟨hfour, hin⟩ := length_of_mem_groups
    (Nat.le_of_eq (by rw [Array.length_toList, hsize, hstart])) hg
  rw [length_flatten_of_length fun word hword => hlen word (Array.mem_toList_iff.mp (hin word hword)),
    hfour]

/-! ## Blocks -/

theorem length_shiftRows (s : List UInt8) : (shiftRows s).length = 16 := by
  rw [shiftRows, List.length_map, List.length_range]

theorem length_mixColumn (column : List UInt8) : (mixColumn column).length = column.length := by
  unfold mixColumn
  split <;> rfl

theorem length_mixColumns {s : List UInt8} (hs : s.length = 16) : (mixColumns s).length = 16 := by
  have hcolumns : ∀ column ∈ (groups 4 4 s).map mixColumn, column.length = 4 := by
    intro column hcolumn
    obtain ⟨c, hc, rfl⟩ := List.mem_map.mp hcolumn
    rw [length_mixColumn, (length_of_mem_groups (by omega) hc).1]
  rw [mixColumns, List.flatMap_def, length_flatten_of_length hcolumns, List.length_map, length_groups]

theorem length_rounds : ∀ {keys : List (List UInt8)} {s : List UInt8}, IsSchedule keys →
    s.length = 16 → (rounds keys s).length = 16
  | [], _, _, hs => hs
  | [key], s, hkeys, _ => by
      rw [rounds, length_xor, length_shiftRows, hkeys key List.mem_cons_self]
      rfl
  | key :: key' :: keys, s, hkeys, _ => by
      rw [rounds]
      · refine length_rounds (fun k hk => hkeys k (List.mem_cons_of_mem _ hk)) ?_
        rw [length_xor, length_mixColumns (length_shiftRows _), hkeys key List.mem_cons_self]
        rfl
      · exact List.cons_ne_nil _ _

/-- **A block stays a block.** -/
theorem length_encryptBlock {keys : List (List UInt8)} {block : List UInt8} (hkeys : IsSchedule keys)
    (hblock : block.length = 16) : (encryptBlock keys block).length = 16 := by
  cases keys with
  | nil => exact hblock
  | cons key keys =>
    refine length_rounds (fun k hk => hkeys k (List.mem_cons_of_mem _ hk)) ?_
    rw [length_xor, hblock, hkeys key List.mem_cons_self]
    rfl

end Aes

namespace Gcm

variable {keys : List (List UInt8)} {key nonce text hidden sealed : List UInt8}

/-! ## The stream and the tag -/

theorem length_counterBlock (hnonce : nonce.length = 12) (count : Nat) :
    (counterBlock nonce count).length = 16 := by
  rw [counterBlock, List.length_append, hnonce, Bytes.length_ofNat]

theorem length_stream (hkeys : Aes.IsSchedule keys) (hnonce : nonce.length = 12) :
    ∀ blocks count : Nat, (stream keys nonce blocks count).length = 16 * blocks
  | 0, _ => rfl
  | blocks + 1, count => by
      rw [stream, List.length_append, length_stream hkeys hnonce,
        Aes.length_encryptBlock hkeys (length_counterBlock hnonce count)]
      omega

/-- The stream is long enough for the text. -/
theorem le_length_stream (hkeys : Aes.IsSchedule keys) (hnonce : nonce.length = 12)
    (text : List UInt8) (count : Nat) :
    text.length ≤ (stream keys nonce ((text.length + 15) / 16) count).length := by
  rw [length_stream hkeys hnonce]
  omega

theorem length_cover (hkeys : Aes.IsSchedule keys) (hnonce : nonce.length = 12)
    (text : List UInt8) : (cover keys nonce text).length = text.length := by
  rw [cover, Aes.length_xor, Nat.min_eq_left (le_length_stream hkeys hnonce text 2)]

/-- **Covering twice uncovers.** -/
theorem cover_cover (hkeys : Aes.IsSchedule keys) (hnonce : nonce.length = 12)
    (text : List UInt8) : cover keys nonce (cover keys nonce text) = text := by
  rw [cover, length_cover hkeys hnonce, cover,
    Aes.xor_xor (le_length_stream hkeys hnonce text 2)]

theorem length_tag (hkeys : Aes.IsSchedule keys) (hnonce : nonce.length = 12)
    (hidden : List UInt8) : (tag keys nonce hidden).length = tagBytes := by
  rw [tag, Aes.length_xor, Bytes.length_ofNat,
    Aes.length_encryptBlock hkeys (length_counterBlock hnonce 1)]
  rfl

/-! ## Encrypting and decrypting -/

theorem length_encrypt (hkey : key.length = 32) (hnonce : nonce.length = 12) (text : List UInt8) :
    (encrypt key nonce text).length = text.length + tagBytes := by
  have hkeys := Aes.isSchedule_roundKeys hkey
  rw [encrypt, List.length_append, length_cover hkeys hnonce, length_tag hkeys hnonce]

/-- **What was encrypted decrypts to the text.** -/
theorem decrypt?_encrypt (hkey : key.length = 32) (hnonce : nonce.length = 12)
    (text : List UInt8) : decrypt? key nonce (encrypt key nonce text) = some text := by
  have hkeys := Aes.isSchedule_roundKeys hkey
  rw [decrypt?, length_encrypt hkey hnonce, Nat.add_sub_cancel, encrypt,
    List.take_left' (length_cover hkeys hnonce text), List.drop_left' (length_cover hkeys hnonce text),
    if_pos rfl, cover_cover hkeys hnonce]

/-- **A text is shorter than what it was hidden in** by the tag. -/
theorem length_of_decrypt? (hkey : key.length = 32) (hnonce : nonce.length = 12)
    (hsealed : tagBytes ≤ sealed.length) (h : decrypt? key nonce sealed = some text) :
    text.length + tagBytes = sealed.length := by
  simp only [decrypt?, Option.ite_none_right_eq_some] at h
  rw [← Option.some.inj h.2, length_cover (Aes.isSchedule_roundKeys hkey) hnonce, List.length_take,
    Nat.min_eq_left (Nat.sub_le _ _), Nat.sub_add_cancel hsealed]

end Gcm

end OrderDesk
