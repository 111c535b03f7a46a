import Mathlib.Data.List.Basic
import OrderDesk.Url.Path

/-!
# Proofs/Url/Segments — the segments of a path on the web

    text ──split──▸ parts ──encode──▸ segments ──resolve──▸ names ──joined──▸ text

A segment holds no slash and only characters that a path keeps, and a *name* is one that leads down
(`IsName`).  To carry out dot segments is to walk: each segment leads from where the path is to where
it goes on (`resolve_eq_arrive`).  A path that is made of names is not changed on the way, so that the
text of names is read back (`stepsOf_joined`).
-/

namespace OrderDesk

/-! ## Cutting a text at its separators -/

namespace Parts

variable {isSeparator : Char → Bool} {cs part : List Char} {c : Char}

theorem split_ne_nil (isSeparator : Char → Bool) : ∀ cs : List Char, split isSeparator cs ≠ []
  | [] => List.cons_ne_nil _ _
  | c :: cs => by
      rw [split]
      split
      · exact List.cons_ne_nil _ _
      · split <;> exact List.cons_ne_nil _ _

/-- What is in front of the first separator is the first part. -/
theorem split_append_cons (hpart : ∀ d ∈ part, isSeparator d = false)
    (hc : isSeparator c = true) (cs : List Char) :
    split isSeparator (part ++ c :: cs) = part :: split isSeparator cs := by
  induction part with
  | nil => rw [List.nil_append, split, if_pos hc]
  | cons d part ih =>
    obtain ⟨hd, hpart⟩ := List.forall_mem_cons.mp hpart
    rw [List.cons_append, split, hd, ih hpart]
    rfl

theorem split_of_forall (hpart : ∀ d ∈ part, isSeparator d = false) :
    split isSeparator part = [part] := by
  induction part with
  | nil => rfl
  | cons d part ih =>
    obtain ⟨hd, hpart⟩ := List.forall_mem_cons.mp hpart
    rw [split, hd, ih hpart]
    rfl

/-- A part holds no separator, and nothing that is not in the text. -/
theorem of_mem_split : ∀ {cs part : List Char}, part ∈ split isSeparator cs → c ∈ part →
    isSeparator c = false ∧ c ∈ cs
  | [], part, hpart, hc => by
      rw [List.mem_singleton.mp hpart] at hc
      contradiction
  | d :: cs, part, hpart, hc => by
      rw [split] at hpart
      split at hpart
      · rcases List.mem_cons.mp hpart with rfl | hpart
        · contradiction
        · exact (of_mem_split hpart hc).imp_right (List.mem_cons_of_mem d)
      · next hd =>
        split at hpart
        · next first parts hsplit =>
          have hrest : ∀ {part}, part ∈ first :: parts → c ∈ part →
              isSeparator c = false ∧ c ∈ d :: cs := fun hpart hc =>
            (of_mem_split (hsplit ▸ hpart) hc).imp_right (List.mem_cons_of_mem d)
          rcases List.mem_cons.mp hpart with rfl | hpart
          · rcases List.mem_cons.mp hc with rfl | hc
            · exact ⟨Bool.eq_false_iff.mpr hd, List.mem_cons_self⟩
            · exact hrest List.mem_cons_self hc
          · exact hrest (List.mem_cons_of_mem _ hpart) hc
        · next hsplit => exact absurd hsplit (split_ne_nil _ cs)

end Parts

namespace Url

variable {cs name : List Char} {names done steps : List (List Char)} {c : Char}

/-- **A text is the text of its parts,** if slashes are what separates them. -/
theorem joined_split {isSeparator : Char → Bool} :
    ∀ {cs : List Char}, (∀ c ∈ cs, isSeparator c = true → c = '/') →
      joined (Parts.split isSeparator cs) = '/' :: cs
  | [], _ => rfl
  | c :: cs, h => by
      obtain ⟨hc, hcs⟩ := List.forall_mem_cons.mp h
      have ih := joined_split hcs
      rw [Parts.split]
      split
      · next hsep =>
        rw [hc hsep]
        exact congrArg ('/' :: ·) ih
      · split
        · next first parts hsplit =>
          rw [hsplit] at ih
          exact congrArg ('/' :: c :: ·) (List.cons.inj ih).2
        · next hsplit => exact absurd hsplit (Parts.split_ne_nil _ cs)

/-! ## Escapes -/

theorem encode_eq_self {keeps : Char → Bool} (h : ∀ c ∈ cs, keeps c = true) :
    encode keeps cs = cs := by
  induction cs with
  | nil => rfl
  | cons c cs ih =>
    obtain ⟨hc, hcs⟩ := List.forall_mem_cons.mp h
    rw [encode, List.flatMap_cons, if_pos hc]
    exact congrArg (c :: ·) (ih hcs)

/-- What is written holds characters of the text that are kept, and escapes. -/
theorem mem_encode {keeps : Char → Bool} (h : c ∈ encode keeps cs) :
    keeps c = true ∧ c ∈ cs ∨ c = '%' ∨ ∃ n < 16, c = upperDigit n := by
  obtain ⟨d, hd, hc⟩ := List.mem_flatMap.mp h
  split at hc
  · next hkeeps =>
    rw [List.mem_singleton.mp hc]
    exact .inl ⟨hkeeps, hd⟩
  · obtain ⟨b, -, hc⟩ := List.mem_flatMap.mp hc
    have hb := b.toNat_lt
    simp only [escapeByte, List.mem_cons, List.not_mem_nil, or_false] at hc
    rcases hc with rfl | rfl | rfl
    · exact .inr (.inl rfl)
    · exact .inr (.inr ⟨b.toNat / 16, by omega, rfl⟩)
    · exact .inr (.inr ⟨b.toNat % 16, by omega, rfl⟩)

/-! ## Segments and names -/

/-- **A segment:** characters that a path keeps, without a slash. -/
structure IsSegment (name : List Char) : Prop where
  kept : ∀ c ∈ name, pathKeeps c = true
  whole : ∀ c ∈ name, isSlash .web c = false

/-- **A name:** a segment that leads down. -/
structure IsName (name : List Char) : Prop extends IsSegment name where
  down : move name = .down

theorem isName_nil : IsName [] := ⟨⟨by simp, by simp⟩, rfl⟩

/-- What is written for a part is a segment. -/
theorem isSegment_encode (h : ∀ c ∈ cs, isSlash .web c = false) :
    IsSegment (encode pathKeeps cs) := by
  have hdigit : ∀ n < 16, pathKeeps (upperDigit n) = true ∧ isSlash .web (upperDigit n) = false := by
    decide
  have hboth : ∀ c ∈ encode pathKeeps cs, pathKeeps c = true ∧ isSlash .web c = false := by
    intro c hc
    rcases mem_encode hc with ⟨hkeeps, hmem⟩ | rfl | ⟨n, hn, rfl⟩
    · exact ⟨hkeeps, h c hmem⟩
    · decide
    · exact hdigit n hn
  exact ⟨fun c hc => (hboth c hc).1, fun c hc => (hboth c hc).2⟩

/-- **The segments of a text,** dot segments and all. -/
def stepsOf (text : List Char) : List (List Char) :=
  (Parts.split (isSlash .web) text).map (encode pathKeeps)

theorem stepsOf_ne_nil (text : List Char) : stepsOf text ≠ [] := by
  simp [stepsOf, Parts.split_ne_nil]

theorem isSegment_of_mem_stepsOf (h : name ∈ stepsOf cs) : IsSegment name := by
  obtain ⟨part, hpart, rfl⟩ := List.mem_map.mp h
  exact isSegment_encode fun c hc => (Parts.of_mem_split hpart hc).1

/-- A segment is read back, alone… -/
theorem IsSegment.stepsOf_eq (h : IsSegment name) : stepsOf name = [name] := by
  rw [stepsOf, Parts.split_of_forall h.whole, List.map_singleton, encode_eq_self h.kept]

/-- …and in front of a text. -/
theorem IsSegment.stepsOf_append (h : IsSegment name) (cs : List Char) :
    stepsOf (name ++ '/' :: cs) = name :: stepsOf cs := by
  rw [stepsOf, Parts.split_append_cons h.whole (by decide), List.map_cons, encode_eq_self h.kept]
  rfl

theorem joined_append (names more : List (List Char)) :
    joined (names ++ more) = joined names ++ joined more := List.flatMap_append

theorem joined_append_cons (names : List (List Char)) (cs : List Char) :
    joined names ++ '/' :: cs = '/' :: dropSlash .web (joined names ++ '/' :: cs) := by
  cases names <;> rfl

/-- **Segments in front of a text are read back.** -/
theorem stepsOf_joined_append (h : ∀ name ∈ names, IsSegment name) (cs : List Char) :
    stepsOf (dropSlash .web (joined names ++ '/' :: cs)) = names ++ stepsOf cs := by
  induction names with
  | nil => rfl
  | cons name names ih =>
    obtain ⟨hname, hnames⟩ := List.forall_mem_cons.mp h
    have htext : dropSlash .web (joined (name :: names) ++ '/' :: cs)
        = name ++ '/' :: dropSlash .web (joined names ++ '/' :: cs) := by
      rw [← joined_append_cons, ← List.append_assoc]
      rfl
    rw [htext, hname.stepsOf_append, ih hnames, List.cons_append]

/-- **Segments are read back from their text.** -/
theorem stepsOf_joined (h : ∀ name ∈ names, IsSegment name) (hne : names ≠ []) :
    stepsOf (dropSlash .web (joined names)) = names := by
  obtain ⟨front, last, rfl⟩ := (List.eq_nil_or_concat' names).resolve_left hne
  have hjoined : joined (front ++ [last]) = joined front ++ '/' :: last := by simp [joined]
  rw [hjoined, stepsOf_joined_append fun name hname => h name (List.mem_append_left _ hname),
    (h last (List.mem_append_right _ List.mem_cons_self)).stepsOf_eq]

theorem joined_eq_nil_iff : joined names = [] ↔ names = [] := by
  cases names <;> simp [joined]

theorem joined_inj {more : List (List Char)} (hnames : ∀ name ∈ names, IsSegment name)
    (hmore : ∀ name ∈ more, IsSegment name) (h : joined names = joined more) : names = more := by
  obtain rfl | hne := eq_or_ne names []
  · exact (joined_eq_nil_iff.mp h.symm).symm
  · have hfull : more ≠ [] := mt joined_eq_nil_iff.mpr (h ▸ mt joined_eq_nil_iff.mp hne)
    rw [← stepsOf_joined hnames hne, h, stepsOf_joined hmore hfull]

/-! ## Walking -/

/-- Where a segment leads to, last step first. -/
def lead (done : List (List Char)) (segment : List Char) : List (List Char) :=
  match move segment with
  | .down => segment :: done
  | .stay => done
  | .up => raise done

/-- Where segments lead to one after the other, last step first.  A dot segment at the end leaves an
empty one. -/
def arrive (done steps : List (List Char)) : List (List Char) :=
  (if steps.getLast?.any (move · ≠ .down) then [[]] else []) ++ steps.foldl lead done

/-- **To carry out dot segments is to walk.** -/
theorem resolve_eq_arrive : ∀ done steps : List (List Char),
    resolve .web done steps = (arrive done steps).reverse
  | _, [] => rfl
  | done, [last] => by
      rw [resolve, arrive]
      cases h : move last <;> simp [h, lead, descend, Kind.first]
  | done, segment :: next :: rest => by
      have harrive : arrive done (segment :: next :: rest)
          = arrive (lead done segment) (next :: rest) := by
        rw [arrive, arrive, List.getLast?_cons_cons]
        rfl
      rw [harrive, ← resolve_eq_arrive, resolve, lead]
      · cases move segment <;> simp [descend, Kind.first]
      · exact List.cons_ne_nil _ _

theorem mem_raise : ∀ {done : List (List Char)}, name ∈ raise done → name ∈ done
  | [], h => h
  | top :: done, h => by
      rw [raise] at h
      split at h
      · exact h
      · exact List.mem_cons_of_mem top h

theorem isName_of_mem_lead (hdone : ∀ n ∈ done, IsName n) (hsegment : IsSegment cs) :
    ∀ n ∈ lead done cs, IsName n := by
  rw [lead]
  cases hmove : move cs with
  | down => exact List.forall_mem_cons.mpr ⟨⟨hsegment, hmove⟩, hdone⟩
  | stay => exact hdone
  | up => exact fun n hn => hdone n (mem_raise hn)

/-- **A walk among names leads to names.** -/
theorem isName_of_mem_arrive (hdone : ∀ n ∈ done, IsName n) (hsteps : ∀ s ∈ steps, IsSegment s) :
    ∀ n ∈ arrive done steps, IsName n := by
  have hfold : ∀ n ∈ steps.foldl lead done, IsName n := by
    induction steps generalizing done with
    | nil => exact hdone
    | cons step steps ih =>
      obtain ⟨hstep, hsteps⟩ := List.forall_mem_cons.mp hsteps
      exact ih (isName_of_mem_lead hdone hstep) hsteps
  intro n hn
  rw [arrive] at hn
  split at hn
  · rcases List.mem_cons.mp hn with rfl | hn
    · exact isName_nil
    · exact hfold n hn
  · exact hfold n hn

/-- **Names are gone down.** -/
theorem foldl_lead_of_down (h : ∀ n ∈ names, IsName n) :
    names.foldl lead done = names.reverse ++ done := by
  induction names generalizing done with
  | nil => rfl
  | cons name names ih =>
    obtain ⟨hname, hnames⟩ := List.forall_mem_cons.mp h
    rw [List.foldl_cons, ih hnames, lead, hname.down]
    simp

theorem arrive_names (h : ∀ n ∈ names, IsName n) : arrive done names = names.reverse ++ done := by
  rw [arrive, foldl_lead_of_down h, if_neg, List.nil_append]
  cases hlast : names.getLast? with
  | none => simp
  | some last => simp [(h last (List.mem_of_getLast? hlast)).down]

theorem arrive_names_append (h : ∀ n ∈ names, IsName n) (hsteps : steps ≠ []) :
    arrive done (names ++ steps) = arrive (names.reverse ++ done) steps := by
  rw [arrive, arrive, List.getLast?_append_of_ne_nil _ hsteps, List.foldl_append,
    foldl_lead_of_down h]

theorem isName_of_mem_segments (h : name ∈ segments .web cs) : IsName name := by
  rw [segments, resolve_eq_arrive, List.mem_reverse] at h
  exact isName_of_mem_arrive (by simp) (fun s => isSegment_of_mem_stepsOf) name h

end Url

end OrderDesk
