import Courier.Endpoint
import Courier.Proofs.Except
import Courier.Proofs.Path
import Mathlib

/-!
# The path below a service URL

The URL of a request keeps all components of its service URL but the path. For a web URL the path
is written from segments as they come out of reading, whatever is put under it.
-/

namespace Courier.Url

/-! ### URLs that were read -/

lemma exists_complete_of_readBehindSlashes? {scheme : String} {t : Text} {u : Url}
    (h : readBehindSlashes? scheme t = some u) :
    ∃ authority rest, u = complete scheme (some authority) rest := by
  unfold readBehindSlashes? at h
  obtain ⟨⟨username, password, rest⟩, -, h⟩ := Option.bind_eq_some_iff.mp h
  dsimp only at h
  split at h
  all_goals
    obtain ⟨host, -, h⟩ := Option.bind_eq_some_iff.mp h
    split at h
    · exact absurd h (by simp)
    · obtain ⟨⟨port, rest'⟩, -, h⟩ := Option.bind_eq_some_iff.mp h
      exact ⟨_, _, (Option.some.inj h).symm⟩

lemma exists_complete_of_readFile? {t : Text} {u : Url} (h : readFile? t = some u) :
    ∃ authority rest, u = complete "file" (some authority) rest := by
  unfold readFile? at h
  split at h
  · split at h
    · dsimp only at h
      split at h
      · exact ⟨_, _, (Option.some.inj h).symm⟩
      · obtain ⟨_, -, h⟩ := Option.bind_eq_some_iff.mp h
        exact ⟨_, _, (Option.some.inj h).symm⟩
    · exact ⟨_, _, (Option.some.inj h).symm⟩
  · exact ⟨_, _, (Option.some.inj h).symm⟩

/-- What a URL that was read is put together from. -/
inductive IsRead : Url → Prop
  /-- A path of segments, behind an authority or behind a slash. -/
  | complete {scheme : String} {authority : Option Authority} {t : Text}
      (h : authority.isSome ∨ t.head? = some '/') : IsRead (complete scheme authority t)
  /-- A path without segments, which no slash stands before. -/
  | plain {scheme : String} {t : Text} (hk : Kind.ofScheme scheme = .other)
      (h : t.head? ≠ some '/') : IsRead (readPlain scheme t)

lemma isRead_of_parse? {s : String} {u : Url} (h : parse? s = some u) : IsRead u := by
  unfold parse? at h
  obtain ⟨⟨scheme, rest⟩, -, h⟩ := Option.bind_eq_some_iff.mp h
  have hauthority : ∀ scheme', (∃ a t, u = complete scheme' (some a) t) → IsRead u := by
    rintro scheme' ⟨a, t, rfl⟩
    exact .complete (.inl rfl)
  dsimp only at h
  split at h
  · exact hauthority _ (exists_complete_of_readFile? h)
  · exact hauthority _ (exists_complete_of_readBehindSlashes? h)
  · next hk =>
    split at h
    · exact hauthority _ (exists_complete_of_readBehindSlashes? h)
    · exact Option.some.inj h ▸ .complete (.inr rfl)
    · next hslash =>
      refine Option.some.inj h ▸ .plain hk fun hhead => ?_
      obtain ⟨r, hr⟩ := List.head?_eq_some_iff.mp hhead
      exact hslash r hr

/-- The path of a web URL that was read. -/
lemma exists_isPath_of_parse? {s : String} {u : Url} (h : parse? s = some u) (hw : u.kind = .web) :
    ∃ segments, u.path = .segments segments ∧ IsPath segments := by
  cases isRead_of_parse? h with
  | @complete scheme authority t =>
    have hk : Kind.ofScheme scheme = .web := hw
    refine ⟨parsePath .web (t.takeWhile (!endsPath ·)), ?_, isPath_parsePath _⟩
    simp [complete, hk]
  | plain hk => exact absurd (hk.symm.trans hw) (by decide)

/-! ### All but the path -/

lemma pathText_of_path_eq {u : Url} {segments : List Text} (h : u.path = .segments segments) :
    u.pathText = segmentsText segments := by
  rw [Url.pathText, h, Path.text]

/-- All components of a URL but its path are those of another one. -/
structure SameButPath (u r : Url) : Prop where
  scheme : r.scheme = u.scheme
  authority : r.authority = u.authority
  query : r.query = u.query
  fragment : r.fragment = u.fragment
  text : r.text = u.frontText ++ r.pathText ++ suffixText '?' u.query ++ suffixText '#' u.fragment

lemma sameButPath_refl (u : Url) : SameButPath u u := ⟨rfl, rfl, rfl, rfl, rfl⟩

lemma sameButPath_withSegments (u : Url) (segments : List Text) :
    SameButPath u (u.withSegments segments) := ⟨rfl, rfl, rfl, rfl, rfl⟩

/-- URLs that differ in their paths only are told apart by these. -/
lemma SameButPath.pathText_eq {u r r' : Url} (hr : SameButPath u r) (hr' : SameButPath u r')
    (h : r.toText = r'.toText) : r.pathText = r'.pathText := by
  have htext : r.text = r'.text := String.ofList_injective h
  rw [hr.text, hr'.text, List.append_cancel_right_eq, List.append_cancel_right_eq,
    List.append_cancel_left_eq] at htext
  exact htext

/-- A path that starts with a slash and holds neither blanks and controls nor the signs that end a
path or stand around a placeholder. -/
structure IsWrittenPath (path : Text) : Prop where
  rooted : path.head? = some '/'
  plain : ∀ c ∈ path, '!' ≤ c ∧ c ≤ '~' ∧ c ∉ ['?', '#', '{', '}']

lemma IsPath.isWrittenPath {segments : List Text} (h : IsPath segments) :
    IsWrittenPath (segmentsText segments) where
  rooted := by
    obtain ⟨s, rest, rfl⟩ := List.exists_cons_of_ne_nil h.ne_nil
    rfl
  plain c hc := by
    obtain ⟨s, hs, hcs⟩ := List.mem_flatMap.mp hc
    have hkeep : pathKeep c := by
      rcases List.mem_cons.mp hcs with rfl | hcs
      · decide
      · exact (h.isSegment s hs).kept c hcs
    obtain ⟨hlow, hhigh, hsigns⟩ := pathKeep_bounds hkeep
    simp only [List.mem_cons, List.not_mem_nil, or_false, not_or] at hsigns ⊢
    tauto

end Courier.Url

namespace Courier.Endpoint

open Url

/-- A service URL is a text that is read as a URL with segments; the empty text is none. -/
lemma readService_eq_ok_iff {service : String} {u : Url} :
    readService service = .ok u ↔ parse? service = some u ∧ u.segments?.isSome := by
  have hempty : parse? "" = none := by decide
  unfold readService
  split
  · next hservice =>
    rw [String.isEmpty_iff.mp hservice, hempty]
    simp
  · split
    · next v hparse =>
      rw [hparse, Option.some.injEq]
      split
      · next hsome =>
        rw [Except.ok.injEq]
        constructor
        · rintro rfl
          exact ⟨rfl, hsome⟩
        · exact And.left
      · next hnone =>
        constructor
        · exact fun h => absurd h (by simp)
        · rintro ⟨rfl, hsome⟩
          exact absurd hsome hnone
    · next hparse => simp [hparse]

lemma parse?_of_readService {service : String} {u : Url} (h : readService service = .ok u) :
    parse? service = some u := (readService_eq_ok_iff.mp h).1

/-- The path of a web service URL. -/
lemma exists_isPath {service : String} {u : Url} (h : readService service = .ok u)
    (hw : u.kind = .web) : ∃ segments, u.path = .segments segments ∧ IsPath segments :=
  exists_isPath_of_parse? (parse?_of_readService h) hw

/-! ### What grows below a service URL -/

lemma resolve_eq_ok {service template : String} {parameters : List (String × String)} {r : Url}
    (h : resolve service template parameters = .ok r) :
    ∃ u filled, readService service = .ok u ∧ fill template.toList parameters = .ok filled
      ∧ r = if (relative filled).isEmpty then u else extend u (relative filled) := by
  obtain ⟨u, hu, h⟩ := bind_eq_ok_iff.mp h
  obtain ⟨filled, hfill, h⟩ := bind_eq_ok_iff.mp h
  exact ⟨u, filled, hu, hfill, (Except.ok.inj h).symm⟩

lemma resolve_of_fill {service template : String} {parameters : List (String × String)} {u : Url}
    {filled : Text} (hu : readService service = .ok u)
    (hf : fill template.toList parameters = .ok filled) :
    resolve service template parameters
      = .ok (if (relative filled).isEmpty then u else extend u (relative filled)) := by
  simp only [resolve, hu, hf, ok_bind, pure_eq_ok]

lemma construct_eq_ok {service : String} {segments values : List String} {r : Url}
    (h : construct service segments values = .ok r) :
    ∃ u, readService service = .ok u ∧ r = u.withSegments
      ((additions segments values).foldl (addPiece u.kind) (u.segments?.getD [])) := by
  obtain ⟨u, hu, h⟩ := bind_eq_ok_iff.mp h
  exact ⟨u, hu, (Except.ok.inj h).symm⟩

lemma isPath_foldl_addPiece {segments : List Text} (h : IsPath segments) (pieces : List Text) :
    IsPath (pieces.foldl (addPiece .web) segments) := by
  induction pieces generalizing segments with
  | nil => exact h
  | cons piece pieces ih => exact ih (h.popIfEmpty.push piece)

/-- Only the path of a web service URL can change: no template, segment or value reaches any other
component, and none of them leaves a sign in the path that would be read as the start of one. -/
theorem only_path_changes {service : String} {u : Url} (hu : readService service = .ok u)
    (hw : u.kind = .web) :
    (∀ template parameters r, resolve service template parameters = .ok r →
        SameButPath u r ∧ IsWrittenPath r.pathText)
      ∧ ∀ segments values r, construct service segments values = .ok r →
        SameButPath u r ∧ IsWrittenPath r.pathText := by
  obtain ⟨base, hpath, hbase⟩ := exists_isPath hu hw
  constructor
  · intro template parameters r hr
    obtain ⟨u', filled, hu', -, rfl⟩ := resolve_eq_ok hr
    obtain rfl : u = u' := Except.ok.inj (hu.symm.trans hu')
    split
    · rw [pathText_of_path_eq hpath]
      exact ⟨sameButPath_refl u, hbase.isWrittenPath⟩
    · refine ⟨sameButPath_withSegments u _, ?_⟩
      rw [pathText_of_path_eq rfl, hw]
      exact (isPath_parsePath _).isWrittenPath
  · intro segments values r hr
    obtain ⟨u', hu', rfl⟩ := construct_eq_ok hr
    obtain rfl : u = u' := Except.ok.inj (hu.symm.trans hu')
    refine ⟨sameButPath_withSegments u _, ?_⟩
    have hlist : u.segments?.getD [] = base := by simp [segments?, hpath]
    rw [pathText_of_path_eq rfl, hw, hlist]
    exact (isPath_foldl_addPiece hbase _).isWrittenPath

/-- Neither what looks like another host nor what looks like a query or a fragment gets out of the
path. -/
theorem only_path_changes_hostile :
    let u : Url := ⟨"https", some ⟨"me".toList, "pw".toList, .domain "h".toList, some 8443⟩, false,
      .segments ["v1".toList], some "q=1".toList, some "f".toList⟩
    let r := u.withSegments ["v1".toList, "evil.com".toList, [], "x@y%3Fa=b%23c".toList,
      "..%2F%3F%23".toList]
    readService "https://me:pw@h:8443/v1?q=1#f" = .ok u ∧ u.kind = .web
      ∧ resolve "https://me:pw@h:8443/v1?q=1#f" "//evil.com\\\\x\t@y?a=b#c/{n}" [("n", "../?#")]
          = .ok r
      ∧ SameButPath u r ∧ IsWrittenPath r.pathText := by
  intro u r
  have hu : readService "https://me:pw@h:8443/v1?q=1#f" = .ok u :=
    eq_ok_of_toOption (by decide +kernel)
  have hw : u.kind = .web := by decide +kernel
  have hr : resolve "https://me:pw@h:8443/v1?q=1#f" "//evil.com\\\\x\t@y?a=b#c/{n}"
      [("n", "../?#")] = .ok r := eq_ok_of_toOption (by decide +kernel)
  exact ⟨hu, hw, hr, (only_path_changes hu hw).1 _ _ _ hr⟩

end Courier.Endpoint
