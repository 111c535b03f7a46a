import OrderDesk.Json.Codec
import OrderDesk.Proofs.Json.Free

/-!
# Proofs/Json/Carries — codecs that carry a value

    a ──encode──▸ value ──render──▸ text ──read──▸ document ──decode──▸ a
                                     └──parse?──▸ free value ──┘

A codec carries `a` when it reads `a` back from every document that spells what it writes, and what it
writes comes through a text (`Codec.Carries`).  Then `a` is read back from its text (`read_write`) and
from the free value of its text (`ofValue_write`).  Each way of putting codecs together has its law
here: lists, fields of a record, and tagged alternatives.
-/

namespace OrderDesk.Json

variable {α β ρ σ τ : Type} {bits room : Nat}

namespace Codec

/-- **A codec carries a value:** what is written fits, and every document that spells it gives the
value back. -/
structure Carries (c : Codec α) (bits room : Nat) (a : α) : Prop where
  /-- What is written comes through a text. -/
  fits : (c.encode a).Fits bits room
  /-- The value is read back. -/
  keeps : ∀ o d, Spells d (c.encode a) → c.decode o d = .ok a

namespace Carries

variable {c : Codec α} {a : α}

theorem mono {bits' room' : Nat} (h : c.Carries bits room a) (hbits : bits ≤ bits')
    (hroom : room ≤ room') : c.Carries bits' room' a :=
  ⟨h.fits.mono hbits hroom, h.keeps⟩

/-- **The value is read back from its text.** -/
theorem read_write (h : c.Carries bits room a) (hroom : room ≤ Document.maxDepth) :
    c.read (c.write a) = .ok a := by
  have hread := Document.read_render_of_depth h.fits.hasDouble (Nat.le_trans h.fits.depth_le hroom)
  have hdecode := h.keeps .text _ (spells_ofValue _)
  rw [write, read, hread, ofReading, hdecode]
  rfl

/-- **…and from the free value of its text.** -/
theorem ofValue_write (h : c.Carries 64 room a) (hroom : room ≤ Document.maxDepth) :
    ∃ w, Value.parse? (c.write a) = some w ∧ c.ofValue w = .ok a := by
  obtain ⟨w, hw, hspells⟩ := h.fits.exists_free
  refine ⟨w, ?_, h.keeps .value _ hspells⟩
  have hparse := Value.parse?_render h.fits.hasDouble (Nat.le_trans h.fits.depth_le hroom)
  rw [write, hparse, hw]

/-- **Values are told apart by what is written of them.** -/
theorem encode_inj (h : ∀ a, c.Carries bits Document.maxDepth a) {b : α}
    (heq : c.encode a = c.encode b) : a = b := by
  have ha := (h a).keeps .text _ (spells_ofValue _)
  rw [heq, (h b).keeps .text _ (spells_ofValue _)] at ha
  exact (Except.ok.inj ha).symm

/-! ## Single values -/

/-- A value that is written as a string is carried if it is read back from the string. -/
theorem ofString {s : String} (hencode : c.encode a = .string s)
    (hdecode : ∀ o, c.decode o (.string s) = .ok a) : c.Carries bits room a where
  fits := by
    rw [hencode]
    cases room <;> trivial
  keeps := by
    intro o d hd
    rw [hencode] at hd
    cases hd
    exact hdecode o

theorem string (s : String) : Codec.string.Carries bits room s :=
  ofString rfl fun _ => rfl

theorem bool (b : Bool) : Codec.bool.Carries bits room b where
  fits := by cases room <;> trivial
  keeps := by
    rintro o d ⟨⟩
    rfl

/-- An integer type carries what lies between its bounds. -/
theorem integer {low high : Int} {toInt : α → Int} {ofInt : Int → α} (hlow : -(Int.pow 2 63) ≤ low)
    (hhigh : high ≤ Int.pow 2 bits) (hbounds : low ≤ toInt a ∧ toInt a < high)
    (hinv : ofInt (toInt a) = a) : (Codec.integer low high toInt ofInt).Carries bits room a where
  fits := Value.Fits.number_iff.mpr
    ⟨Int.le_trans hlow hbounds.1, Int.lt_of_lt_of_le hbounds.2 hhigh⟩
  keeps := by
    rintro o d ⟨⟩
    change (if _ then _ else _) = _
    rw [if_pos hbounds, hinv]

theorem byte (b : UInt8) : Codec.byte.Carries 64 room b := by
  have hlt : (b.toNat : Int) < Int.pow 2 8 := Int.ofNat_lt.mpr b.toNat_lt
  exact integer (by decide) (by decide) ⟨Int.natCast_nonneg _, hlt⟩ (UInt8.ofNat_toNat)

theorem word (w : UInt64) : Codec.word.Carries 64 room w := by
  have hlt : (w.toNat : Int) < Int.pow 2 64 := Int.ofNat_lt.mpr w.toNat_lt
  exact integer (by decide) (by decide) ⟨Int.natCast_nonneg _, hlt⟩ (UInt64.ofNat_toNat)

theorem int8 (n : Int8) : Codec.int8.Carries 64 room n :=
  integer (by decide) (by decide) ⟨n.le_toInt, n.toInt_lt⟩ (Int8.ofInt_toInt n)

theorem int64 (n : Int64) : Codec.int64.Carries 64 room n :=
  integer (by decide) (by decide) ⟨n.le_toInt, n.toInt_lt⟩ (Int64.ofInt_toInt n)

/-- A free value is kept as it is. -/
theorem free {v : Value} (hfree : v.IsFree) (hfits : v.Fits bits room) :
    Codec.free.Carries bits room v where
  fits := hfits
  keeps := by
    intro o d hd
    have hread : d.toValue? = some v := hd.toValue? hfree
    simp only [Codec.free, hread]

/-! ## Several values -/

theorem readAll_eq {read : Document → Except Fault α} {as : List α} {vs : List Value}
    {ds : List Document} {encode : α → Value} (hvs : vs = as.map encode) (hds : SpellsItems ds vs)
    (h : ∀ a ∈ as, ∀ d, Spells d (encode a) → read d = .ok a) : readAll read ds = .ok as := by
  induction as generalizing vs ds with
  | nil =>
    subst hvs
    cases hds
    rfl
  | cons a as ih =>
    subst hvs
    cases hds with
    | cons head tail =>
      rw [List.forall_mem_cons] at h
      rw [readAll, h.1 _ head]
      simp only [ih rfl tail h.2]

theorem list {as : List α} (h : ∀ a ∈ as, c.Carries bits room a) :
    c.list.Carries bits (room + 1) as where
  fits := by
    intro v hv
    obtain ⟨a, ha, rfl⟩ := List.mem_map.mp hv
    exact (h a ha).fits
  keeps := by
    rintro o d ⟨⟩
    next items => exact readAll_eq rfl items fun a ha d hd => (h a ha).keeps o d hd

theorem optional_none : c.optional.Carries bits room none where
  fits := by cases room <;> trivial
  keeps := by
    rintro o d ⟨⟩
    rfl

/-- A value that is not written as `null` is told from none. -/
theorem optional_some (h : c.Carries bits room a) (hnull : c.encode a ≠ .null) :
    c.optional.Carries bits room (some a) where
  fits := h.fits
  keeps := by
    intro o d hd
    have hd' : d ≠ .null := by
      rintro rfl
      have : c.encode a = .null := by
        change Spells .null (c.encode a) at hd
        generalize c.encode a = v at hd
        cases hd
        rfl
      exact hnull this
    have hdecode := h.keeps o d hd
    simp only [Codec.optional]
    rw [hdecode]
    rfl

end Carries

end Codec

/-! ## Records -/

theorem SpellsMembers.append_inv {ms : List (Option String × Document)}
    {us vs : List (String × Value)} (h : SpellsMembers ms (us ++ vs)) :
    ∃ ms₁ ms₂, ms = ms₁ ++ ms₂ ∧ SpellsMembers ms₁ us ∧ SpellsMembers ms₂ vs := by
  induction us generalizing ms with
  | nil => exact ⟨[], ms, rfl, .nil, h⟩
  | cons u us ih =>
    cases h with
    | cons head tail =>
      obtain ⟨ms₁, ms₂, rfl, h₁, h₂⟩ := ih tail
      exact ⟨_ :: ms₁, ms₂, rfl, .cons head h₁, h₂⟩

/-- A member that is spelled has a name that is written. -/
theorem SpellsMembers.exists_name {ms : List (Option String × Document)} {us : List (String × Value)}
    (h : SpellsMembers ms us) {m : Option String × Document} (hm : m ∈ ms) :
    ∃ u ∈ us, m.1 = some u.1 := by
  induction us generalizing ms with
  | nil => cases h; cases hm
  | cons u us ih =>
    cases h with
    | cons head tail =>
      rcases List.mem_cons.mp hm with rfl | hm
      · exact ⟨_, List.mem_cons_self, rfl⟩
      · obtain ⟨u', hu', heq⟩ := ih tail hm
        exact ⟨u', List.mem_cons_of_mem _ hu', heq⟩

namespace Fields

@[simp] theorem write_required (name : String) (get : ρ → α) (c : Codec α) (r : ρ) :
    (required name get c).write r = [(name, c.encode (get r))] := rfl

@[simp] theorem write_optional (name : String) (get : ρ → Option α) (c : Codec α) (r : ρ) :
    (optional name get c).write r = [(name, c.optional.encode (get r))] := rfl

@[simp] theorem write_and (f : Fields ρ σ α) (g : Fields ρ τ β) (r : ρ) :
    (f.and g).write r = f.write r ++ g.write r := rfl

theorem isSome_take?_and (f : Fields ρ σ α) (g : Fields ρ τ β) (key : String) :
    ((f.and g).take? key).isSome = ((f.take? key).isSome || (g.take? key).isSome) := by
  simp only [Fields.and]
  cases f.take? key <;> simp

/-- The names of the members that are written. -/
def names (f : Fields ρ σ α) (r : ρ) : List String := (f.write r).map Prod.fst

/-- Whether a member is a field of a record. -/
def knows (f : Fields ρ σ α) (m : Option String × Document) : Bool :=
  match m.1 with
  | some key => (f.take? key).isSome
  | none => false

/-- **The fields carry a record:** what is written fits, and if no name is written twice, its members
in any order give the part of the record that the fields hold. -/
structure Carries (f : Fields ρ σ α) (bits room : Nat) (r : ρ) (a : α) : Prop where
  /-- What is written comes through a text. -/
  fits : ∀ u ∈ f.write r, u.2.Fits bits room
  /-- All fields are written, and nothing else is. -/
  known : ∀ key, (f.take? key).isSome = true ↔ key ∈ f.names r
  /-- The members give the fields back. -/
  keeps : (f.names r).Nodup → ∀ o ms' ms, ms'.Perm ms → SpellsMembers ms (f.write r) →
    ∃ s, f.gather o ms' f.empty = .ok s ∧ f.finish s = .ok a

/-- Two parts that were shuffled together are told apart by what holds of one of them only. -/
theorem perm_filter_of_append {ι : Type} {l l₁ l₂ : List ι} {q : ι → Bool} (h : l.Perm (l₁ ++ l₂))
    (h₁ : ∀ x ∈ l₁, q x = true) (h₂ : ∀ x ∈ l₂, q x = false) :
    (l.filter q).Perm l₁ ∧ (l.filter (!q ·)).Perm l₂ := by
  constructor
  · have hkeep : l₁.filter q = l₁ := List.filter_eq_self.mpr h₁
    have hdrop : l₂.filter q = [] := List.filter_eq_nil_iff.mpr fun x hx => by simp [h₂ x hx]
    have hfilter := h.filter q
    rwa [List.filter_append, hkeep, hdrop, List.append_nil] at hfilter
  · have hdrop : l₁.filter (!q ·) = [] := List.filter_eq_nil_iff.mpr fun x hx => by simp [h₁ x hx]
    have hkeep : l₂.filter (!q ·) = l₂ := List.filter_eq_self.mpr fun x hx => by simp [h₂ x hx]
    have hfilter := h.filter (!q ·)
    rwa [List.filter_append, hdrop, hkeep, List.nil_append] at hfilter

/-- **Members of two parts of a record are gathered as the members of each part.** -/
theorem gather_and {f : Fields ρ σ α} {g : Fields ρ τ β} {o : Origin} {s s' : σ} {t t' : τ}
    {ms : List (Option String × Document)} (hf : f.gather o (ms.filter f.knows) s = .ok s')
    (hg : g.gather o (ms.filter (!f.knows ·)) t = .ok t') :
    (f.and g).gather o ms (s, t) = .ok (s', t') := by
  induction ms generalizing s t with
  | nil =>
    rw [List.filter_nil, gather] at hf hg
    rw [gather, Except.ok.inj hf, Except.ok.inj hg]
  | cons m ms ih =>
    obtain ⟨_ | key, d⟩ := m
    · rw [List.filter_cons_of_pos rfl, gather] at hg
      cases hg
    · cases hkey : f.take? key with
      | some take =>
        have hknows : f.knows (some key, d) = true := by simp [knows, hkey]
        rw [List.filter_cons_of_pos hknows, gather, hkey] at hf
        rw [List.filter_cons_of_neg (by simp [hknows])] at hg
        cases htake : take o d s with
        | error e => simp [htake] at hf
        | ok s₁ =>
          simp only [htake] at hf
          simp only [gather, and, hkey, htake, Except.map]
          exact ih hf hg
      | none =>
        have hknows : f.knows (some key, d) = false := by simp [knows, hkey]
        rw [List.filter_cons_of_neg (by simp [hknows])] at hf
        rw [List.filter_cons_of_pos (by simp [hknows]), gather] at hg
        cases hkey' : g.take? key with
        | some take =>
          rw [hkey'] at hg
          cases htake : take o d t with
          | error e => simp [htake] at hg
          | ok t₁ =>
            simp only [htake] at hg
            simp only [gather, and, hkey, hkey', htake, Except.map, Option.map_some]
            exact ih hf hg
        | none =>
          rw [hkey'] at hg
          simp only [gather, and, hkey, hkey', Option.map_none]
          cases hd : d.isWhole with
          | false => simp [hd] at hg
          | true =>
            simp only [hd, if_true] at hg
            exact ih hf hg

namespace Carries

/-- One field. -/
theorem single {c : Codec α} {name : String} {get : ρ → α} {absent short : Option α} {r : ρ}
    (h : c.Carries bits room (get r)) :
    (Fields.single name get c absent short).Carries bits room r (get r) where
  fits := by
    intro u hu
    rw [List.mem_singleton.mp hu]
    exact h.fits
  known := by
    intro key
    simp only [Fields.single, names, List.map_cons, List.map_nil, List.mem_singleton]
    split <;> simp [*]
  keeps := by
    intro _ o ms' ms hperm hms
    obtain ⟨d, rfl, hd⟩ : ∃ d, ms = [(some name, d)] ∧ Spells d (c.encode (get r)) := by
      cases hms with
      | cons head tail => cases tail; exact ⟨_, rfl, head⟩
    rw [List.perm_singleton.mp hperm]
    have hdecode := h.keeps o d hd
    refine ⟨some (get r), ?_, rfl⟩
    simp only [gather, Fields.single, if_true, hdecode, Except.map]

theorem required {c : Codec α} {name : String} {get : ρ → α} {r : ρ}
    (h : c.Carries bits room (get r)) :
    (Fields.required name get c).Carries bits room r (get r) :=
  single h

theorem optional {c : Codec α} {name : String} {get : ρ → Option α} {r : ρ}
    (h : c.optional.Carries bits room (get r)) :
    (Fields.optional name get c).Carries bits room r (get r) :=
  single h

/-- **Two parts of a record.** -/
theorem and {f : Fields ρ σ α} {g : Fields ρ τ β} {r : ρ} {a : α} {b : β}
    (hf : f.Carries bits room r a) (hg : g.Carries bits room r b) :
    (f.and g).Carries bits room r (a, b) where
  fits := by
    intro u hu
    rcases List.mem_append.mp hu with hu | hu
    · exact hf.fits u hu
    · exact hg.fits u hu
  known := by
    intro key
    have hfkey := hf.known key
    have hgkey := hg.known key
    rw [names] at hfkey hgkey
    rw [names, write_and, List.map_append, List.mem_append, ← hfkey, ← hgkey, isSome_take?_and,
      Bool.or_eq_true]
  keeps := by
    intro hnodup o ms' ms hperm hms
    rw [names, write_and, List.map_append, List.nodup_append] at hnodup
    obtain ⟨hnodup₁, hnodup₂, hdisjoint⟩ := hnodup
    obtain ⟨ms₁, ms₂, rfl, h₁, h₂⟩ := hms.append_inv
    -- the members of the first part are those that it knows
    have hknown : ∀ m ∈ ms₁, f.knows m = true := by
      intro m hm
      obtain ⟨u, hu, hname⟩ := h₁.exists_name hm
      rw [knows, hname]
      exact (hf.known u.1).mpr (List.mem_map_of_mem hu)
    have hunknown : ∀ m ∈ ms₂, f.knows m = false := by
      intro m hm
      obtain ⟨u, hu, hname⟩ := h₂.exists_name hm
      rw [knows, hname, Bool.eq_false_iff]
      intro hsome
      exact hdisjoint _ ((hf.known u.1).mp hsome) _ (List.mem_map_of_mem hu) rfl
    obtain ⟨hperm₁, hperm₂⟩ := perm_filter_of_append hperm hknown hunknown
    obtain ⟨s, hs, ha⟩ := hf.keeps hnodup₁ o _ _ hperm₁ h₁
    obtain ⟨t, ht, hb⟩ := hg.keeps hnodup₂ o _ _ hperm₂ h₂
    refine ⟨(s, t), gather_and hs ht, ?_⟩
    simp only [Fields.and, ha, hb]
    rfl

/-- **A record is carried by its fields.** -/
theorem codec {f : Fields ρ σ α} {r : ρ} {a : α} {build : α → ρ} (h : f.Carries bits room r a)
    (hbuild : build a = r) (hnodup : (f.names r).Nodup) :
    (f.codec build).Carries bits (room + 1) r where
  fits := ⟨hnodup, h.fits⟩
  keeps := by
    rintro o d hd
    obtain ⟨ms', ms, rfl, hperm, hms⟩ : ∃ ms' ms, d = .object ms' ∧ ms'.Perm ms ∧
        SpellsMembers ms (f.write r) := by
      cases hd with
      | object order members => exact ⟨_, _, rfl, order, members⟩
    obtain ⟨s, hs, ha⟩ := h.keeps hnodup o ms' ms hperm hms
    change ((f.gather o ms' f.empty).bind f.finish).map build = .ok r
    rw [hs, Except.bind, ha, Except.map, hbuild]

end Carries

end Fields

/-! ## Alternatives -/

theorem Spells.tagged_inv {d : Document} {tag : String} {v : Value} (h : Spells d (.tagged tag v)) :
    ∃ d', d = .object [(some tag, d')] ∧ Spells d' v := by
  cases h with
  | object order members =>
    cases members with
    | cons head tail =>
      cases tail
      rw [List.perm_singleton.mp order]
      exact ⟨_, rfl, head⟩

theorem Value.Fits.tagged {tag : String} {v : Value} (h : v.Fits bits room) :
    (Value.tagged tag v).Fits bits (room + 1) := by
  refine ⟨List.pairwise_singleton _ _, fun m hm => ?_⟩
  rw [List.mem_singleton.mp hm]
  exact h

namespace Variant

variable {variants : List (Variant α)} {tag : String} {o : Origin} {d : Document} {a : α}

/-- A tag alone. -/
theorem decode_string {v : Variant α} (hfind : find? variants tag = .ok v) (ha : v.alone = some a) :
    decode variants o (.string tag) = .ok a := by
  rw [decode, hfind, Except.bind, ha]

/-- A tag with a content. -/
theorem decode_tagged {v : Variant α} (hfind : find? variants tag = .ok v)
    (ha : v.content o d = .ok a) : decode variants o (.object [(some tag, d)]) = .ok a := by
  cases o <;> simp only [decode, hfind, Except.bind, ha] <;> rfl

end Variant

namespace Codec.Carries

variable {c : Codec α} {inner : Codec β} {variants : List (Variant α)} {tag : String} {a : α}
  {b : β} {make : β → α}

/-- **A tag alone.** -/
theorem alone {v : Variant α} (hencode : c.encode a = .string tag)
    (hdecode : c.decode = Variant.decode variants) (hfind : Variant.find? variants tag = .ok v)
    (ha : v.alone = some a) : c.Carries bits room a := by
  refine ofString hencode fun o => ?_
  rw [hdecode]
  exact Variant.decode_string hfind ha

/-- A tag with a content. -/
theorem tagged {v : Variant α} {content : Value} (hencode : c.encode a = .tagged tag content)
    (hdecode : c.decode = Variant.decode variants) (hfind : Variant.find? variants tag = .ok v)
    (hfits : content.Fits bits room) (ha : ∀ o d, Spells d content → v.content o d = .ok a) :
    c.Carries bits (room + 1) a where
  fits := by
    rw [hencode]
    exact hfits.tagged
  keeps := by
    intro o d hd
    rw [hencode] at hd
    obtain ⟨d', rfl, hd'⟩ := hd.tagged_inv
    rw [hdecode]
    exact Variant.decode_tagged hfind (ha o d' hd')

/-- **A tag with the content of another codec.** -/
theorem holding (h : inner.Carries bits room b) (hmake : make b = a)
    (hencode : c.encode a = .tagged tag (inner.encode b))
    (hdecode : c.decode = Variant.decode variants)
    (hfind : Variant.find? variants tag = .ok (.holding tag inner make)) :
    c.Carries bits (room + 1) a := by
  refine tagged hencode hdecode hfind h.fits ?_
  intro o d hd
  have hinner := h.keeps o d hd
  simp only [Variant.holding, hinner, Except.map, hmake]

/-- **A tag with a record of its own:** what is written is an object, which both ways of reading take
by name. -/
theorem fields (h : inner.Carries bits room b) (hmake : make b = a)
    (hencode : c.encode a = .tagged tag (inner.encode b))
    (hobject : ∃ us, inner.encode b = .object us) (hdecode : c.decode = Variant.decode variants)
    (hfind : Variant.find? variants tag = .ok (.fields tag inner make)) :
    c.Carries bits (room + 1) a := by
  refine tagged hencode hdecode hfind h.fits ?_
  intro o d hd
  have hinner := h.keeps o d hd
  obtain ⟨us, hus⟩ := hobject
  obtain ⟨ms, rfl⟩ : ∃ ms, d = .object ms := by
    rw [hus] at hd
    cases hd
    exact ⟨_, rfl⟩
  cases o <;> simp only [Variant.fields, hinner, Except.map, hmake]

end Codec.Carries

end OrderDesk.Json
