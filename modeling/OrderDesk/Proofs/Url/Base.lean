import Mathlib.Data.List.DropRight
import OrderDesk.Endpoint
import OrderDesk.Proofs.Url.Segments

/-!
# Proofs/Url/Base — the path of an endpoint, told by the path of its base

    names of the base ⌢ segments of the path ──walk──▸ names of the endpoint

A URL of the web's own schemes has a path of names (`onWeb_of_parse?`).  Of these names an endpoint
keeps all but the empty ones at their end, the *stem*, and goes on from there: it is the base with
another path, namely where the segments of the caller's path lead from the stem (`endpoint_eq`).
-/

namespace OrderDesk.Url

variable {cs : List Char} {names : List (List Char)} {base : Url} {text path : String}

/-! ## Bases -/

/-- **A URL on the web:** its path is made of names. -/
structure OnWeb (u : Url) : Prop where
  kind : kindOf u.scheme = .web
  path : ∃ names, u.path = .rooted names ∧ ∀ name ∈ names, IsName name

/-- On the web a path has a root. -/
theorem ofText_web (cs : List Char) :
    Path.ofText .web cs = .rooted (segments .web (dropSlash .web cs)) := by
  rw [Path.ofText, if_neg]
  simp [Kind.isSpecial]

theorem path_behindSlashes {scheme : List Char} (h : behindSlashes? scheme cs = some base) :
    base.scheme = scheme ∧ ∃ text, base.path = Path.ofText (kindOf scheme) text := by
  obtain ⟨⟨a, rest⟩, -, rfl⟩ := Option.map_eq_some_iff.mp h
  exact ⟨rfl, _, rfl⟩

theorem scheme_file {scheme : List Char} (h : file? scheme cs = some base) :
    base.scheme = scheme := by
  simp only [file?] at h
  split at h
  · split at h
    · split at h
      · rw [← Option.some.inj h]
        rfl
      · obtain ⟨host, -, rfl⟩ := Option.map_eq_some_iff.mp h
        rfl
    · rw [← Option.some.inj h]
      rfl
  · rw [← Option.some.inj h]
    rfl

/-- **What is read on the web's own schemes is on the web.** -/
theorem onWeb_of_parse? (h : parse? text = some base) (hkind : kindOf base.scheme = .web) :
    OnWeb base := by
  have hpath : ∃ text, base.path = Path.ofText .web text := by
    rw [parse?] at h
    split at h
    · contradiction
    · next scheme rest _ =>
      split at h
      · next hfile =>
        rw [scheme_file h, hfile] at hkind
        contradiction
      · next hweb =>
        obtain ⟨-, text, hpath⟩ := path_behindSlashes h
        exact ⟨text, hweb ▸ hpath⟩
      · next hother =>
        have hscheme : base.scheme = scheme := by
          split at h
          · exact (path_behindSlashes h).1
          · rw [← Option.some.inj h]
            rfl
        rw [hscheme, hother] at hkind
        contradiction
  obtain ⟨text, hpath⟩ := hpath
  exact ⟨hkind, _, hpath.trans (ofText_web text), fun name => isName_of_mem_segments⟩

/-! ## The stem -/

/-- **The names that an endpoint keeps:** all but the empty ones at the end of a path. -/
def Path.stem : Path → List (List Char)
  | rooted names => names.rdropWhile List.isEmpty
  | rootless _ => []

/-- Slashes at the end of a path are empty names. -/
theorem dropEndSlashes_joined (h : ∀ name ∈ names, IsName name) :
    dropEndSlashes (joined names) = joined (names.rdropWhile List.isEmpty) := by
  change (joined names).rdropWhile (· = '/') = _
  induction names using List.reverseRecOn with
  | nil => rfl
  | append_singleton names name ih =>
    have hjoined : joined (names ++ [name]) = joined names ++ '/' :: name := by simp [joined]
    rw [hjoined]
    obtain rfl | ⟨front, c, rfl⟩ := name.eq_nil_or_concat'
    · rw [List.rdropWhile_concat_pos _ _ _ (by decide), List.rdropWhile_concat_pos _ _ _ rfl]
      exact ih fun name hname => h name (List.mem_append_left _ hname)
    · have hname : IsName (front ++ [c]) := h _ (List.mem_append_right _ List.mem_cons_self)
      have hc := hname.whole c (List.mem_append_right _ List.mem_cons_self)
      have hslash : ¬ (fun d : Char => decide (d = '/')) c = true := by
        rw [decide_eq_true_eq]
        rintro rfl
        contradiction
      have hfull : ¬ List.isEmpty (front ++ [c]) = true := by simp
      rw [List.rdropWhile_concat_neg _ _ _ hfull, hjoined, ← List.cons_append, ← List.append_assoc]
      exact List.rdropWhile_concat_neg (fun d => decide (d = '/')) _ c hslash

theorem OnWeb.isName_of_mem_stem (h : OnWeb base) : ∀ name ∈ base.path.stem, IsName name := by
  obtain ⟨names, hpath, hnames⟩ := h.path
  rw [hpath]
  exact fun name hname => hnames name ((List.rdropWhile_prefix _ _).subset hname)

theorem OnWeb.isSegment_of_mem_stem (h : OnWeb base) : ∀ name ∈ base.path.stem, IsSegment name :=
  fun name hname => (h.isName_of_mem_stem name hname).toIsSegment

/-- **The path of a base without the slashes at its end is that of its stem.** -/
theorem OnWeb.dropEndSlashes_path (h : OnWeb base) :
    dropEndSlashes base.path.text = joined base.path.stem := by
  obtain ⟨names, hpath, hnames⟩ := h.path
  rw [hpath]
  exact dropEndSlashes_joined hnames

/-! ## Endpoints -/

/-- What counts of a caller's path: neither the slashes in front nor blanks that are passed over. -/
def relative (path : List Char) : List Char :=
  (path.dropWhile (· = '/')).filter fun c => !isPassedOver c

/-- What a path keeps is not passed over. -/
theorem not_isPassedOver_of_keeps {c : Char} (h : pathKeeps c = true) : isPassedOver c = false := by
  rw [Bool.eq_false_iff]
  intro hover
  simp only [isPassedOver, Bool.or_eq_true, decide_eq_true_eq] at hover
  rcases hover with (rfl | rfl) | rfl <;> exact absurd h (by decide)

theorem filter_joined (h : ∀ name ∈ names, IsName name) :
    (joined names).filter (fun c => !isPassedOver c) = joined names := by
  refine List.filter_eq_self.mpr fun c hc => ?_
  obtain ⟨name, hname, hc⟩ := List.mem_flatMap.mp hc
  rcases List.mem_cons.mp hc with rfl | hc
  · decide
  · rw [not_isPassedOver_of_keeps ((h name hname).kept c hc)]
    rfl

/-- **An endpoint is the base with another path:** where the caller's path leads from the stem. -/
theorem OnWeb.endpoint_eq (h : OnWeb base) (path : String) : base.endpoint path
    = { base with
        path := .rooted (arrive base.path.stem.reverse (stepsOf (relative path.toList))).reverse } := by
  obtain ⟨names, hpath, -⟩ := id h.path
  have hstem := h.isName_of_mem_stem
  have htext : (joinPaths base.path.text path.toList).filter (fun c => !isPassedOver c)
      = joined base.path.stem ++ '/' :: relative path.toList := by
    rw [joinPaths, h.dropEndSlashes_path, List.filter_append, filter_joined hstem,
      List.filter_cons_of_pos (by decide), relative]
  have hsegments : segments .web (dropSlash .web (joined base.path.stem ++ '/' :: relative path.toList))
      = (arrive base.path.stem.reverse (stepsOf (relative path.toList))).reverse := by
    rw [segments, resolve_eq_arrive]
    change (arrive [] (stepsOf _)).reverse = _
    rw [stepsOf_joined_append h.isSegment_of_mem_stem, arrive_names_append hstem (stepsOf_ne_nil _), List.append_nil]
  rw [endpoint, withPath, htext, h.kind, ofText_web, hsegments]
  simp only [hpath]

theorem OnWeb.path_endpoint (h : OnWeb base) (path : String) : (base.endpoint path).path
    = .rooted (arrive base.path.stem.reverse (stepsOf (relative path.toList))).reverse :=
  congrArg Url.path (h.endpoint_eq path)

/-- An endpoint is a base in its turn. -/
theorem OnWeb.onWeb_endpoint (h : OnWeb base) (path : String) : OnWeb (base.endpoint path) := by
  rw [h.endpoint_eq]
  refine ⟨h.kind, _, rfl, fun name hname => ?_⟩
  refine isName_of_mem_arrive (fun n hn => ?_) (fun s => isSegment_of_mem_stepsOf) name
    (List.mem_reverse.mp hname)
  exact h.isName_of_mem_stem n (List.mem_reverse.mp hn)

/-! ## Streams -/

/-- **The schemes that a base may have,** each with that of its streams. -/
def families : List (List Char × List Char) :=
  [(['h', 't', 't', 'p'], ['w', 's']), (['h', 't', 't', 'p', 's'], ['w', 's', 's']),
    (['w', 's'], ['w', 's']), (['w', 's', 's'], ['w', 's', 's'])]

theorem of_mem_families {scheme stream : List Char} (h : (scheme, stream) ∈ families) :
    kindOf scheme = .web ∧ streamScheme? scheme = some stream := by
  have hall : ∀ family ∈ families,
      kindOf family.1 = .web ∧ streamScheme? family.1 = some family.2 := by decide
  exact hall _ h

/-- **A stream is the endpoint on the scheme of its family.** -/
theorem stream_of_mem_families {scheme : List Char} (h : (base.scheme, scheme) ∈ families)
    (path : String) : base.stream path = .ok { base.endpoint path with scheme := scheme } := by
  rw [stream, (of_mem_families h).2]

end OrderDesk.Url
