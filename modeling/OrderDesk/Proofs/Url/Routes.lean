import OrderDesk.Client.Route
import OrderDesk.Proofs.Json.Lexemes
import OrderDesk.Proofs.Url.Base

/-!
# Proofs/Url/Routes — the paths of the service stand in endpoints as they are

    keys, assets ──text──▸ letters, digits, `@` ──▸ a path of names ──▸ the end of the endpoint's path

The canonical texts of assets and keys are of a few characters that mean nothing in a URL, so that no
segment of a route is escaped or is a dot segment (`isName_of_isPlain`).  Each route therefore ends
the path of its endpoint, letter by letter (`endpoint_route`).  Slashes at the end of the base do not
belong to its stem, and slashes in front of the caller's path do not count (`endpoint_slashes`).
-/

namespace OrderDesk

namespace Url

variable {cs name : List Char} {base : Url} {c : Char}

/-! ## Plain texts -/

/-- **A plain character:** a digit, a letter in lower case, an `@` or a slash. -/
def isPlain (c : Char) : Bool :=
  Numeral.isDigit c || (97 ≤ c.toNat && c.toNat ≤ 122) || c = '@' || c = '/'

/-- A plain character is kept by a path, and it has no part in an escape or in a dot segment. -/
theorem keeps_of_isPlain (h : isPlain c = true) :
    pathKeeps c = true ∧ c ≠ '.' ∧ c ≠ '%' ∧ c ≠ '\\' := by
  have hall : ∀ n < 128, isPlain (Char.ofNat n) = true → pathKeeps (Char.ofNat n) = true ∧
      Char.ofNat n ≠ '.' ∧ Char.ofNat n ≠ '%' ∧ Char.ofNat n ≠ '\\' := by
    decide
  have hc : c.toNat < 128 := by
    simp only [isPlain, Numeral.isDigit, Bool.or_eq_true, Bool.and_eq_true,
      decide_eq_true_eq] at h
    rcases h with ((h | h) | rfl) | rfl
    · omega
    · omega
    · decide
    · decide
  have hchar := hall c.toNat hc
  rw [Char.ofNat_toNat] at hchar
  exact hchar h

theorem plainDots_eq_self (h : ∀ c ∈ cs, c ≠ '%') : plainDots cs = cs := by
  induction cs with
  | nil => rfl
  | cons c cs ih =>
    obtain ⟨hc, hcs⟩ := List.forall_mem_cons.mp h
    rw [plainDots, ih hcs]
    · rintro _ rfl
      contradiction
    · rintro _ rfl
      contradiction

/-- **A plain segment is a name.** -/
theorem isName_of_isPlain (hplain : ∀ c ∈ name, isPlain c = true)
    (hwhole : ∀ c ∈ name, isSlash .web c = false) : IsName name := by
  refine ⟨⟨fun c hc => (keeps_of_isPlain (hplain c hc)).1, hwhole⟩, ?_⟩
  have hdot : '.' ∉ name := fun hmem => (keeps_of_isPlain (hplain '.' hmem)).2.1 rfl
  have hplainDots := plainDots_eq_self fun c hc => (keeps_of_isPlain (hplain c hc)).2.2.1
  simp only [move, hplainDots]
  rw [if_neg, if_neg]
  · rintro rfl
    exact hdot List.mem_cons_self
  · rintro rfl
    exact hdot List.mem_cons_self

/-- **The segments of a plain text are its parts,** and each of them is a name. -/
theorem stepsOf_of_isPlain (h : ∀ c ∈ cs, isPlain c = true) :
    stepsOf cs = Parts.split (isSlash .web) cs ∧
      ∀ name ∈ Parts.split (isSlash .web) cs, IsName name := by
  have hnames : ∀ name ∈ Parts.split (isSlash .web) cs, IsName name := fun name hname =>
    isName_of_isPlain (fun c hc => h c (Parts.of_mem_split hname hc).2)
      fun c hc => (Parts.of_mem_split hname hc).1
  refine ⟨?_, hnames⟩
  calc stepsOf cs = (Parts.split (isSlash .web) cs).map id :=
        List.map_congr_left fun name hname => encode_eq_self (hnames name hname).kept
    _ = Parts.split (isSlash .web) cs := List.map_id _

theorem joined_split_of_isPlain (h : ∀ c ∈ cs, isPlain c = true) :
    joined (Parts.split (isSlash .web) cs) = '/' :: cs := by
  refine joined_split fun c hc hslash => ?_
  simp only [isSlash, Bool.or_eq_true, Bool.and_eq_true, decide_eq_true_eq] at hslash
  exact hslash.resolve_right fun hback => (keeps_of_isPlain (h c hc)).2.2.2 hback.2

/-- **A plain path:** one slash, and behind it a plain text that begins with none. -/
def isPlainPath : List Char → Bool
  | '/' :: c :: cs => c ≠ '/' && (c :: cs).all isPlain
  | _ => false

theorem isPlainPath_iff : isPlainPath cs = true ↔
    ∃ c rest, cs = '/' :: c :: rest ∧ c ≠ '/' ∧ ∀ d ∈ c :: rest, isPlain d = true := by
  constructor
  · intro h
    rw [isPlainPath.eq_def] at h
    split at h
    · next c rest =>
      simp only [Bool.and_eq_true, decide_eq_true_eq, List.all_eq_true] at h
      exact ⟨c, rest, rfl, h⟩
    · contradiction
  · rintro ⟨c, rest, rfl, hc, hplain⟩
    rw [isPlainPath, Bool.and_eq_true, decide_eq_true_eq, List.all_eq_true]
    exact ⟨hc, hplain⟩

theorem isPlainPath_append {front tail : String} (hfront : isPlainPath front.toList = true)
    (htail : ∀ c ∈ tail.toList, isPlain c = true) :
    isPlainPath (front ++ tail).toList = true := by
  obtain ⟨c, rest, hcs, hc, hplain⟩ := isPlainPath_iff.mp hfront
  rw [String.toList_append, hcs, isPlainPath_iff]
  refine ⟨c, rest ++ tail.toList, rfl, hc, fun d hd => ?_⟩
  exact (List.mem_append.mp (List.cons_append ▸ hd)).elim (hplain d) (htail d)

/-! ## Slashes that do not count -/

/-- Slashes in front of a caller's path do not count. -/
theorem relative_slashes_append (j : Nat) (cs : List Char) :
    relative (List.replicate j '/' ++ cs) = relative cs := by
  rw [relative, relative, List.dropWhile_append_of_pos]
  simp

/-- Of a plain path all but its slash counts. -/
theorem relative_of_isPlainPath (h : isPlainPath ('/' :: cs) = true) : relative ('/' :: cs) = cs := by
  obtain ⟨c, rest, hcs, hc, hplain⟩ := isPlainPath_iff.mp h
  obtain rfl := (List.cons.inj hcs).2
  have hdrop : ('/' :: c :: rest).dropWhile (· = '/') = c :: rest := by
    rw [List.dropWhile_cons_of_pos (by decide), List.dropWhile_cons_of_neg (by simpa using hc)]
  rw [relative, hdrop, List.filter_eq_self]
  intro d hd
  rw [not_isPassedOver_of_keeps (keeps_of_isPlain (hplain d hd)).1]
  rfl

theorem dropEndSlashes_append_slashes (cs : List Char) (k : Nat) :
    dropEndSlashes (cs ++ List.replicate k '/') = dropEndSlashes cs := by
  rw [dropEndSlashes, dropEndSlashes, List.reverse_append, List.reverse_replicate,
    List.dropWhile_append_of_pos (by simp)]

/-- **Slashes at the end of the base or in front of the path do not change an endpoint.** -/
theorem OnWeb.endpoint_slashes {slashed : Url} (hbase : OnWeb base) (hslashed : OnWeb slashed)
    (hrest : slashed = { base with path := slashed.path }) (j : Nat) {k : Nat}
    (htext : slashed.path.text = base.path.text ++ List.replicate k '/') (path : String) :
    slashed.endpoint (String.ofList (List.replicate j '/') ++ path) = base.endpoint path := by
  have hstem : slashed.path.stem = base.path.stem := by
    refine joined_inj hslashed.isSegment_of_mem_stem hbase.isSegment_of_mem_stem ?_
    rw [← hslashed.dropEndSlashes_path, ← hbase.dropEndSlashes_path, htext,
      dropEndSlashes_append_slashes]
  rw [hslashed.endpoint_eq, hbase.endpoint_eq, String.toList_append, String.toList_ofList,
    relative_slashes_append, hstem, hrest]

/-- **A plain path ends the path of its endpoint as it is.** -/
theorem OnWeb.text_endpoint_of_isPlainPath (h : OnWeb base) {path : String}
    (hpath : isPlainPath path.toList = true) :
    (base.endpoint path).path.text = dropEndSlashes base.path.text ++ path.toList := by
  obtain ⟨c, rest, hcs, -, hplain⟩ := isPlainPath_iff.mp hpath
  obtain ⟨hsteps, hnames⟩ := stepsOf_of_isPlain hplain
  have harrive : (arrive base.path.stem.reverse (stepsOf (c :: rest))).reverse
      = base.path.stem ++ Parts.split (isSlash .web) (c :: rest) := by
    rw [hsteps, arrive_names hnames, List.reverse_append, List.reverse_reverse, List.reverse_reverse]
  rw [hcs] at hpath
  rw [h.path_endpoint, hcs, relative_of_isPlainPath hpath, harrive, h.dropEndSlashes_path,
    Path.text, joined_append, joined_split_of_isPlain hplain]

end Url

/-! ## The routes of the service -/

open Url (isPlain isPlainPath isPlainPath_append)

variable {c : Char}

theorem Numeral.isPlain_of_mem_decimal {n : Nat} (h : c ∈ (decimal n).toList) :
    isPlain c = true := by
  rw [decimal, String.toList_ofList] at h
  rw [isPlain, isDigit_of_mem_toDigits h]
  rfl

theorem Hex.isPlain_of_mem_text {bytes : List UInt8} (h : c ∈ (text bytes).toList) :
    isPlain c = true := by
  have hdigit : ∀ n < 16, isPlain (digit n) = true := by decide
  rw [text, String.toList_ofList] at h
  obtain ⟨n, hn, rfl⟩ := exists_digit_of_mem_encode h
  exact hdigit n hn

/-- The text of an asset is plain. -/
theorem Asset.isPlain_of_mem_text (asset : Asset) : ∀ c ∈ asset.text.toList, isPlain c = true := by
  cases asset with
  | index n => exact fun c => Numeral.isPlain_of_mem_decimal
  | address a =>
    intro c hc
    rw [text, ChainAddress.text, String.toList_append, String.toList_append, List.mem_append,
      List.mem_append] at hc
    rcases hc with (hc | hc) | hc
    · exact Hex.isPlain_of_mem_text hc
    · rw [List.mem_singleton.mp hc]
      decide
    · exact Hex.isPlain_of_mem_text hc

/-- **Every route is a plain path.** -/
theorem Route.isPlainPath_path (route : Route) : isPlainPath route.path.toList = true := by
  have hasset (asset : Asset) : ∀ c ∈ asset.text.toList, isPlain c = true :=
    asset.isPlain_of_mem_text
  have huser (user : PublicKey) : ∀ c ∈ user.text.toList, isPlain c = true :=
    fun c => Hex.isPlain_of_mem_text
  cases route with
  | nonce user | inventory user | userOrders user | userTrades user | settlementSignatures user
  | withdrawalSignatures user | approvals user => exact isPlainPath_append (by decide) (huser user)
  | market asset | depth asset | depthChanges asset =>
    exact isPlainPath_append (by decide) (hasset asset)
  | exchange | startSettlement | startWithdrawal | updateWithdrawals | updateVault | createOrder
  | cancelOrder | replaceOrder | orders | trades | control => decide

namespace Url

/-- **A route stands in its endpoint and in its stream as it is.**  On a base of `http` or `https` it
follows the path of the base, all else is the base's, and the stream is the endpoint on `ws` or
`wss`.  Neither more slashes at the end of the base nor more of them in front of the route change
that. -/
theorem endpoint_route {text : String} {scheme : List Char} (hbase : parse? text = some base)
    (hscheme : (base.scheme, scheme) ∈ [(['h', 't', 't', 'p'], ['w', 's']),
      (['h', 't', 't', 'p', 's'], ['w', 's', 's'])]) (route : Route) :
    (∃ path : Path, path.text = dropEndSlashes base.path.text ++ route.path.toList ∧
      base.endpoint route.path = { base with path := path } ∧
      base.stream route.path = .ok { base with path := path, scheme := scheme }) ∧
    ∀ (more : String) (slashed : Url) (j k : Nat), parse? more = some slashed →
      slashed = { base with path := slashed.path } →
      slashed.path.text = base.path.text ++ List.replicate k '/' →
      slashed.endpoint (String.ofList (List.replicate j '/') ++ route.path)
          = base.endpoint route.path ∧
        slashed.stream (String.ofList (List.replicate j '/') ++ route.path)
          = base.stream route.path := by
  have hfamily : (base.scheme, scheme) ∈ families := List.mem_append_left _ hscheme
  have hkind := (of_mem_families hfamily).1
  have hweb := onWeb_of_parse? hbase hkind
  have hendpoint := hweb.endpoint_eq route.path
  refine ⟨⟨(base.endpoint route.path).path, ?_, ?_, ?_⟩, fun more slashed j k hmore hrest htext => ?_⟩
  · exact hweb.text_endpoint_of_isPlainPath route.isPlainPath_path
  · rw [hendpoint]
  · rw [stream_of_mem_families hfamily, hendpoint]
  · have hsame : slashed.scheme = base.scheme := by rw [hrest]
    have hslashed := onWeb_of_parse? hmore (hsame ▸ hkind)
    have heq := hweb.endpoint_slashes hslashed hrest j htext route.path
    refine ⟨heq, ?_⟩
    rw [stream_of_mem_families (hsame ▸ hfamily), stream_of_mem_families hfamily, heq]

/-- The base of a service with a port and a query, and with more slashes at the end of its path. -/
theorem endpoint_route_market : ∃ base slashed,
    parse? "https://[::1]:8443/api?k=v" = some base ∧
    parse? "https://[::1]:8443/api///?k=v" = some slashed ∧
    (base.endpoint (Route.market (.index 200)).path).path.text
      = ['/', 'a', 'p', 'i', '/', 'm', 'a', 'r', 'k', 'e', 't', '/', '2', '0', '0'] ∧
    slashed.endpoint (String.ofList (List.replicate 2 '/') ++ (Route.market (.index 200)).path)
      = base.endpoint (Route.market (.index 200)).path := by
  have hparts : (parse? "https://[::1]:8443/api?k=v").map (fun u => (u.scheme, u.path))
      = some (['h', 't', 't', 'p', 's'], .rooted [['a', 'p', 'i']]) := by
    decide +kernel
  have hmore : parse? "https://[::1]:8443/api///?k=v" = (parse? "https://[::1]:8443/api?k=v").map
      fun u => { u with path := .rooted [['a', 'p', 'i'], [], [], []] } := by
    decide +kernel
  obtain ⟨base, hbase, hparts⟩ := Option.map_eq_some_iff.mp hparts
  obtain ⟨hscheme, hpath⟩ := Prod.mk.inj hparts
  rw [hbase] at hmore
  have hfamily : (base.scheme, ['w', 's', 's']) ∈ [(['h', 't', 't', 'p'], ['w', 's']),
      (['h', 't', 't', 'p', 's'], ['w', 's', 's'])] := by
    simp [hscheme]
  obtain ⟨⟨path, htext, hendpoint, -⟩, hslashes⟩ :=
    endpoint_route hbase hfamily (.market (.index 200))
  refine ⟨base, _, hbase, hmore, ?_, (hslashes _ _ 2 3 hmore rfl ?_).1⟩
  · rw [hendpoint, htext, hpath]
    decide +kernel
  · rw [hpath]
    rfl

end Url

end OrderDesk
