import Courier.Proofs.Service
import Mathlib

/-!
# Reading a URL again

Everything of a web URL up to its path is read without regard to the path, and so is everything behind
it. So a URL that is read back from its own text is read back with any other path, too.
-/

namespace Courier.Url

open Percent

/-! ### Characters before a path -/

/-- Characters that may stand in a scheme or an authority: no blanks or controls, and none that would
end the authority of a web URL. -/
def isFront (c : Char) : Bool := ' ' < c && !endsAuthority .web c

lemma not_endsAuthority_of_isFront {c : Char} (h : isFront c) : endsAuthority .web c = false := by
  simp only [isFront, Bool.and_eq_true, Bool.not_eq_true'] at h
  exact h.2

lemma isFront_of_not_mem {c : Char} (hlow : ' ' < c) (h : c ∉ ['/', '\\', '?', '#']) :
    isFront c = true := by
  simp_all [isFront, endsAuthority, isSeparator, endsPath]

lemma isFront_hexDigit : ∀ n < 16, isFront (hexDigit n) = true := by decide

lemma isFront_of_userinfoKeep {c : Char} (h : userinfoKeep c) : isFront c = true := by
  simp only [userinfoKeep, Bool.and_eq_true, decide_eq_true_eq] at h
  obtain ⟨hlow, -, hsigns⟩ := pathKeep_bounds h.1
  apply isFront_of_not_mem (lt_of_lt_of_le (by decide) hlow)
  simp_all

lemma isFront_of_mem_encode_userinfoKeep {t : Text} : ∀ c ∈ encode userinfoKeep t, isFront c = true :=
  forall_mem_encode (fun _ _ => isFront_of_userinfoKeep) (by decide) isFront_hexDigit

lemma isFront_digitChar (n : Nat) : isFront n.digitChar = true := by
  by_cases h : n < 16
  · have hdigits : ∀ n < 16, isFront (Nat.digitChar n) = true := by decide
    exact hdigits n h
  · rw [Nat.digitChar_eq_star.mpr (by omega)]
    decide

lemma isFront_of_mem_toDigits {b : Nat} (hb : 1 < b) (n : Nat) :
    ∀ c ∈ Nat.toDigits b n, isFront c = true := by
  induction n using Nat.strong_induction_on with
  | _ n ih =>
    rw [Nat.toDigits_eq_if hb]
    split
    · simp [isFront_digitChar]
    · next h =>
      rw [List.forall_mem_append, List.forall_mem_singleton]
      exact ⟨ih _ (Nat.div_lt_self (by omega) hb), isFront_digitChar _⟩

lemma forall_mem_intercalate {P : Char → Prop} {sep : Char} (hsep : P sep) {list : List Text}
    (h : ∀ t ∈ list, ∀ c ∈ t, P c) : ∀ c ∈ [sep].intercalate list, P c := by
  induction list with
  | nil => simp
  | cons t rest ih =>
    obtain ⟨ht, hrest⟩ := List.forall_mem_cons.mp h
    cases rest with
    | nil => simpa using ht
    | cons s rest =>
      rw [List.intercalate_cons_cons, List.append_assoc, List.forall_mem_append,
        List.forall_mem_append, List.forall_mem_singleton]
      exact ⟨ht, hsep, ih hrest⟩

lemma isFront_of_mem_natText (n : Nat) : ∀ c ∈ natText n, isFront c = true :=
  isFront_of_mem_toDigits (by decide) n

lemma isFront_of_mem_ipv4Text (address : Nat) : ∀ c ∈ Ipv4.text address, isFront c = true := by
  refine forall_mem_intercalate (P := (isFront · = true)) (by decide) ?_
  rw [List.forall_mem_map]
  intro i _
  exact isFront_of_mem_natText _

lemma isFront_of_mem_ipv6Text (pieces : List Nat) : ∀ c ∈ Ipv6.text pieces, isFront c = true := by
  have hjoin : ∀ ps, ∀ c ∈ Ipv6.join ps, isFront c = true := by
    intro ps
    refine forall_mem_intercalate (P := (isFront · = true)) (by decide) ?_
    rw [List.forall_mem_map]
    intro p _
    exact isFront_of_mem_toDigits (by decide) p
  unfold Ipv6.text
  dsimp only
  split
  · exact hjoin _
  · rw [List.forall_mem_append]
    refine ⟨hjoin _, ?_⟩
    rw [List.forall_mem_cons, List.forall_mem_cons]
    exact ⟨by decide, by decide, hjoin _⟩

lemma isFront_of_not_isForbidden {c : Char} (h : Domain.isForbidden c = false) :
    isFront c = true := by
  simp only [Domain.isForbidden, Bool.or_eq_false_iff, decide_eq_false_iff_not, not_le] at h
  apply isFront_of_not_mem h.1.1
  simp_all

/-- The host of a web URL that was read. -/
lemma isFront_of_mem_host {t : Text} {host : Host} (h : Host.parseSpecial? t = some host) :
    host.text ≠ [] ∧ ∀ c ∈ host.text, isFront c = true := by
  unfold Host.parseSpecial? at h
  split at h
  · simp only [Host.bracketed?] at h
    split at h
    · obtain ⟨pieces, -, rfl⟩ := Option.map_eq_some_iff.mp h
      refine ⟨by simp [Host.text], ?_⟩
      rw [Host.text, List.forall_mem_cons, List.forall_mem_append, List.forall_mem_singleton]
      exact ⟨by decide, isFront_of_mem_ipv6Text pieces, by decide⟩
    · exact absurd h (by simp)
  · obtain ⟨decoded, -, h⟩ := Option.bind_eq_some_iff.mp h
    obtain ⟨name, hname, h⟩ := Option.bind_eq_some_iff.mp h
    split at h
    · exact absurd h (by simp)
    · next hempty =>
      split at h
      · obtain ⟨address, -, rfl⟩ := Option.map_eq_some_iff.mp h
        refine ⟨?_, isFront_of_mem_ipv4Text address⟩
        simp [Host.text, Ipv4.text]
      · obtain rfl : Host.domain name = host := Option.some.inj h
        refine ⟨by simpa [Host.text] using hempty, ?_⟩
        unfold Domain.toAscii? at hname
        obtain ⟨labels, -, hname⟩ := Option.bind_eq_some_iff.mp hname
        dsimp only at hname
        split at hname
        · exact absurd hname (by simp)
        · next hforbidden =>
          obtain rfl := Option.some.inj hname
          intro c hc
          apply isFront_of_not_isForbidden
          simp only [List.any_eq_true, not_exists, not_and, Bool.not_eq_true] at hforbidden
          exact hforbidden c hc

/-! ### Reading up to the path -/

section Front

variable {a : Text}

lemma takeWhile_front (ha : ∀ c ∈ a, isFront c) (t : Text) :
    (a ++ '/' :: t).takeWhile (!endsAuthority .web ·) = a
      ∧ (a ++ '/' :: t).dropWhile (!endsAuthority .web ·) = '/' :: t := by
  have hkept : ∀ c ∈ a, (!endsAuthority .web c) = true := by
    intro c hc
    simp [not_endsAuthority_of_isFront (ha c hc)]
  have hslash : (!endsAuthority .web '/') = false := by decide
  rw [List.takeWhile_append_of_pos hkept, List.dropWhile_append_of_pos hkept]
  simp [hslash]

lemma forall_mem_splitAtSign (ha : ∀ c ∈ a, isFront c) {user host : Text}
    (h : splitAtSign a = some (user, host)) : ∀ c ∈ host, isFront c := by
  unfold splitAtSign at h
  split at h
  · obtain ⟨-, rfl⟩ := Prod.mk.inj (Option.some.inj h)
    intro c hc
    exact ha c (List.mem_reverse.mp ((List.takeWhile_sublist _).subset (List.mem_reverse.mp hc)))
  · exact absurd h (by simp)

lemma head?_front_any (ha : ∀ c ∈ a, isFront c) (t : Text) :
    (a ++ '/' :: t).head?.any (endsAuthority .web) = a.isEmpty := by
  cases a with
  | nil => rfl
  | cons c a => simpa using not_endsAuthority_of_isFront (ha c List.mem_cons_self)

/-- The user name and the password are read without regard to what stands behind the authority. -/
lemma exists_readUser?_eq (ha : ∀ c ∈ a, isFront c) :
    ∃ o : Option (Text × Text × Text),
      (∀ x, o = some x → ∀ c ∈ x.2.2, isFront c)
        ∧ ∀ t, readUser? .web (a ++ '/' :: t)
            = o.map fun x => (x.1, x.2.1, x.2.2 ++ '/' :: t) := by
  cases hsplit : splitAtSign a with
  | none =>
    refine ⟨some ([], [], a), ?_, fun t => ?_⟩
    · rintro x h
      exact Option.some.inj h ▸ ha
    · simp [readUser?, takeWhile_front ha t, hsplit]
  | some p =>
    obtain ⟨user, host⟩ := p
    have hhost := forall_mem_splitAtSign ha hsplit
    refine ⟨if user = [] then if host = [] then none else some ([], [], host)
      else some (encode userinfoKeep (user.takeWhile (· ≠ ':')),
        encode userinfoKeep ((user.dropWhile (· ≠ ':')).drop 1), host), ?_, fun t => ?_⟩
    · rintro x h
      split_ifs at h <;> exact Option.some.inj h ▸ hhost
    · have hhead := head?_front_any hhost t
      by_cases huser : user = [] <;> by_cases hempty : host = [] <;>
        simp_all [readUser?, takeWhile_front ha t]

lemma hostLength_front (ha : ∀ c ∈ a, isFront c) (inside : Bool) (t : Text) :
    hostLength .web inside (a ++ '/' :: t) = hostLength .web inside a := by
  have hslash : endsAuthority .web '/' = true := by decide
  induction a generalizing inside with
  | nil => simp [hostLength, hslash]
  | cons c a ih =>
    obtain ⟨hc, hrest⟩ := List.forall_mem_cons.mp ha
    rw [List.cons_append, hostLength, hostLength]
    simp only [ih hrest]

/-- A host ends with the authority or before a colon. -/
lemma drop_hostLength (ha : ∀ c ∈ a, isFront c) (inside : Bool) :
    hostLength .web inside a ≤ a.length
      ∧ (a.drop (hostLength .web inside a) = []
        ∨ ∃ r, a.drop (hostLength .web inside a) = ':' :: r) := by
  induction a generalizing inside with
  | nil => simp [hostLength]
  | cons c a ih =>
    obtain ⟨hc, hrest⟩ := List.forall_mem_cons.mp ha
    have hends := not_endsAuthority_of_isFront hc
    rw [hostLength]
    by_cases hcolon : c = ':' ∧ inside = false
    · obtain ⟨rfl, rfl⟩ := hcolon
      simp
    · have hgo : ¬ (endsAuthority .web c || (c = ':' && !inside)) = true := by
        simpa [hends] using hcolon
      rw [if_neg hgo]
      obtain ⟨hlength, hdrop⟩ := ih hrest (if c = '[' then true else if c = ']' then false else inside)
      exact ⟨by simpa using hlength, hdrop⟩

lemma span_append_slash {p : Char → Bool} (hp : p '/' = false) (r t : Text) :
    (r ++ '/' :: t).takeWhile p = r.takeWhile p
      ∧ (r ++ '/' :: t).dropWhile p = r.dropWhile p ++ '/' :: t := by
  induction r with
  | nil => simp [hp]
  | cons c r ih =>
    obtain ⟨htake, hdrop⟩ := ih
    constructor
    · rw [List.cons_append, List.takeWhile_cons, List.takeWhile_cons, htake]
    · rw [List.cons_append, List.dropWhile_cons, List.dropWhile_cons, hdrop]
      split <;> rfl

/-- The port is read without regard to what stands behind the authority. -/
lemma exists_readPort?_eq (scheme : String) {d : Text} (hd : ∀ c ∈ d, isFront c)
    (hcolon : d = [] ∨ ∃ r, d = ':' :: r) :
    ∃ o : Option (Option Nat), ∀ t, readPort? scheme (d ++ '/' :: t)
      = o.map fun p => (p, '/' :: t) := by
  rcases hcolon with rfl | ⟨r, rfl⟩
  · exact ⟨some none, fun t => rfl⟩
  · have hr : ∀ c ∈ r.dropWhile Char.isDigit, isFront c :=
      fun c hc => hd c (List.mem_cons_of_mem _ ((List.dropWhile_sublist _).subset hc))
    generalize hrest : r.dropWhile Char.isDigit = rest at hr
    generalize hdigits : r.takeWhile Char.isDigit = digits
    refine ⟨if 65535 < digitsValue digits || !rest.isEmpty then none
      else if digits.isEmpty || defaultPorts.lookup scheme = some (digitsValue digits) then some none
      else some (some (digitsValue digits)), fun t => ?_⟩
    have hhead : (rest ++ '/' :: t).head?.any (fun c => !(endsPath c || c = '/' || c = '\\'))
        = !rest.isEmpty := by
      cases rest with
      | nil => simp
      | cons c rest =>
        have hc := not_endsAuthority_of_isFront (hr c List.mem_cons_self)
        simp [endsAuthority, isSeparator, Kind.isSpecial] at hc
        simp [hc]
    obtain ⟨htake, hdrop⟩ := span_append_slash (p := Char.isDigit) (by decide) r t
    rw [hdigits] at htake
    rw [hrest] at hdrop
    simp only [List.cons_append, readPort?, htake, hdrop, hhead]
    by_cases hempty : rest = []
    · subst hempty
      split_ifs <;> simp_all
    · simp [hempty]

/-- What stands between the two slashes and the path is read without regard to the path. -/
lemma exists_readBehindSlashes?_eq {scheme : String} (hk : Kind.ofScheme scheme = .web)
    (ha : ∀ c ∈ a, isFront c) :
    ∃ o : Option Authority, ∀ t, readBehindSlashes? scheme (a ++ '/' :: t)
      = o.map fun x => complete scheme (some x) ('/' :: t) := by
  obtain ⟨o, ho, huser⟩ := exists_readUser?_eq ha
  rcases o with _ | ⟨username, password, b⟩
  · refine ⟨none, fun t => ?_⟩
    simp [readBehindSlashes?, hk, huser]
  · have hb : ∀ c ∈ b, isFront c := ho _ rfl
    obtain ⟨hlength, hdrop⟩ := drop_hostLength hb false
    have hlen := fun t => hostLength_front hb false t
    generalize hostLength .web false b = n at hlength hdrop hlen
    have hd : ∀ c ∈ b.drop n, isFront c := fun c hc => hb c (List.mem_of_mem_drop hc)
    obtain ⟨port, hport⟩ := exists_readPort?_eq scheme hd hdrop
    refine ⟨(Host.parseSpecial? (b.take n)).bind fun host => port.map fun p =>
      ⟨username, password, host, p⟩, fun t => ?_⟩
    rw [readBehindSlashes?]
    simp only [hk, huser, Option.map_some, Option.bind_eq_bind, Option.bind_some, hlen t,
      List.take_append_of_le_length hlength, List.drop_append_of_le_length hlength, hport]
    cases hhost : Host.parseSpecial? (b.take n) with
    | none => simp [Kind.isSpecial]
    | some host =>
      have hne : host ≠ .empty := by
        rintro rfl
        exact (isFront_of_mem_host hhost).1 rfl
      cases port <;> simp [hne, Kind.isSpecial]

end Front

/-! ### Schemes -/

/-- A scheme as it stands in a URL that was read. -/
structure IsScheme (t : Text) : Prop where
  head : t.head?.any Char.isAlpha
  chars : ∀ c ∈ t, isSchemeChar c
  lower : t.map Char.toLower = t

lemma isSchemeChar_toLower {c : Char} (h : isSchemeChar c) : isSchemeChar c.toLower := by
  by_cases hupper : c.isUpper
  · have halpha : c.isAlpha := by simp [Char.isAlpha, hupper]
    simp [isSchemeChar, Char.isAlphanum, halpha]
  · rwa [Char.toLower_eq_of_not_isUpper hupper]

lemma space_lt_of_isSchemeChar {c : Char} (h : isSchemeChar c) : ' ' < c := by
  simp only [isSchemeChar, Char.isAlphanum, Char.isAlpha, Char.isUpper, Char.isLower, Char.isDigit,
    Bool.or_eq_true, Bool.and_eq_true, decide_eq_true_eq, UInt32.le_iff_toNat_le, ge_iff_le] at h
  rw [Char.lt_def, UInt32.lt_iff_toNat_lt]
  rcases h with ((h | rfl) | rfl) | rfl
  · simp at h ⊢
    omega
  all_goals decide

lemma isScheme_of_readScheme? {t rest : Text} {scheme : String}
    (h : readScheme? t = some (scheme, rest)) : IsScheme scheme.toList := by
  unfold readScheme? at h
  split at h
  · exact absurd h (by simp)
  · next halpha =>
    split at h
    · obtain ⟨rfl, -⟩ := Prod.mk.inj (Option.some.inj h)
      rw [String.toList_ofList]
      cases t with
      | nil => simp at halpha
      | cons c t =>
        have hc : c.isAlpha := by simpa using halpha
        have hscheme : isSchemeChar c := by simp [isSchemeChar, Char.isAlphanum, hc]
        refine ⟨by simp [hscheme, hc], ?_, by simp⟩
        rw [List.forall_mem_map]
        intro d hd
        exact isSchemeChar_toLower (List.mem_takeWhile_imp hd)
    · exact absurd h (by simp)

/-- A scheme in front of a colon is read as it is. -/
lemma IsScheme.readScheme?_eq {scheme : String} (h : IsScheme scheme.toList) (rest : Text) :
    readScheme? (scheme.toList ++ ':' :: rest) = some (scheme, rest) := by
  have hcolon : isSchemeChar ':' = false := by decide
  have hhead : (scheme.toList ++ ':' :: rest).head?.any Char.isAlpha = true := by
    have := h.head
    cases hs : scheme.toList with
    | nil => simp [hs] at this
    | cons c t => simpa [hs] using this
  unfold readScheme?
  rw [hhead, List.takeWhile_append_of_pos h.chars, List.dropWhile_append_of_pos h.chars]
  simp [hcolon, h.lower]

/-! ### Whole URLs -/

lemma trimEnds_eq_self {t : Text} (h : ∀ c ∈ t, ' ' < c) : trimEnds t = t := by
  have hdrop : ∀ s : Text, (∀ c ∈ s, ' ' < c) → s.dropWhile (· ≤ ' ') = s := by
    intro s hs
    cases s with
    | nil => rfl
    | cons c s => simpa using hs c List.mem_cons_self
  rw [trimEnds, hdrop t h, hdrop t.reverse (by simpa using h), List.reverse_reverse]

lemma clean_eq_self_of_space_lt {t : Text} (h : ∀ c ∈ t, ' ' < c) : clean t = t := by
  apply clean_eq_self
  intro c hc
  have hlt := h c hc
  simp only [isIgnored, Bool.or_eq_false_iff, decide_eq_false_iff_not]
  refine ⟨⟨?_, ?_⟩, ?_⟩ <;> rintro rfl <;> exact absurd hlt (by decide)

/-- A web URL is read without regard to its path up to the path. -/
lemma exists_parse?_eq {scheme : String} (hs : IsScheme scheme.toList)
    (hk : Kind.ofScheme scheme = .web) {a : Text} (hne : a ≠ []) (ha : ∀ c ∈ a, isFront c) :
    ∃ o : Option Authority, ∀ t, (∀ c ∈ t, ' ' < c) →
      parse? (String.ofList (scheme.toList ++ ':' :: '/' :: '/' :: (a ++ '/' :: t)))
        = o.map fun x => complete scheme (some x) ('/' :: t) := by
  obtain ⟨o, ho⟩ := exists_readBehindSlashes?_eq hk ha
  refine ⟨o, fun t ht => ?_⟩
  have hlt : ∀ c ∈ scheme.toList ++ ':' :: '/' :: '/' :: (a ++ '/' :: t), ' ' < c := by
    have hfront : ∀ c ∈ a, ' ' < c := fun c hc => by
      have := ha c hc
      simp only [isFront, Bool.and_eq_true, decide_eq_true_eq] at this
      exact this.1
    have hscheme : ∀ c ∈ scheme.toList, ' ' < c := fun c hc => space_lt_of_isSchemeChar (hs.chars c hc)
    simp only [List.forall_mem_append, List.forall_mem_cons]
    exact ⟨hscheme, by decide, by decide, by decide, hfront, by decide, ht⟩
  have hslashes : ('/' :: '/' :: (a ++ '/' :: t)).dropWhile (isSeparator .web) = a ++ '/' :: t := by
    obtain ⟨c, a, rfl⟩ := List.exists_cons_of_ne_nil hne
    have hc := not_endsAuthority_of_isFront (ha c List.mem_cons_self)
    rw [endsAuthority, Bool.or_eq_false_iff] at hc
    have hslash : isSeparator .web '/' = true := by decide
    simp [hslash, hc.1]
  rw [parse?, String.toList_ofList, trimEnds_eq_self hlt, clean_eq_self_of_space_lt hlt,
    hs.readScheme?_eq]
  simp only [Option.bind_eq_bind, Option.bind_some, hk]
  rw [hslashes, ho t]

/-! ### URLs that were read -/

/-- A web URL that was read, but for its path: the text before the path is read as it stands, and
neither the query nor the fragment has a blank or control. -/
structure IsWeb (u : Url) (a : Authority) : Prop where
  kind : u.kind = .web
  authority : u.authority = some a
  unguarded : u.guarded = false
  scheme : IsScheme u.scheme.toList
  ne_nil : a.text ≠ []
  front : ∀ c ∈ a.text, isFront c
  query : ∀ c ∈ suffixText '?' u.query, ' ' < c
  fragment : ∀ c ∈ suffixText '#' u.fragment, ' ' < c

lemma isFront_of_readUser? {t username password rest : Text}
    (h : readUser? .web t = some (username, password, rest)) :
    (∀ c ∈ username, isFront c) ∧ ∀ c ∈ password, isFront c := by
  unfold readUser? at h
  split at h
  · simp only [Option.some.injEq, Prod.mk.injEq] at h
    obtain ⟨rfl, rfl, -⟩ := h
    simp
  · dsimp only at h
    split at h
    · split at h
      · exact absurd h (by simp)
      · simp only [Option.some.injEq, Prod.mk.injEq] at h
        obtain ⟨rfl, rfl, -⟩ := h
        simp
    · simp only [Option.some.injEq, Prod.mk.injEq] at h
      obtain ⟨rfl, rfl, -⟩ := h
      exact ⟨isFront_of_mem_encode_userinfoKeep, isFront_of_mem_encode_userinfoKeep⟩

lemma isFront_of_mem_authority {a : Authority} (huser : ∀ c ∈ a.username, isFront c)
    (hpassword : ∀ c ∈ a.password, isFront c) (hhost : ∀ c ∈ a.host.text, isFront c) :
    ∀ c ∈ a.text, isFront c := by
  have hsecret : ∀ c ∈ (if a.password.isEmpty then [] else ':' :: a.password), isFront c := by
    split
    · simp
    · exact List.forall_mem_cons.mpr ⟨by decide, hpassword⟩
  have hsign : ∀ user : Text, (∀ c ∈ user, isFront c) →
      ∀ c ∈ (if user.isEmpty then [] else user ++ ['@']), isFront c := by
    intro user h
    split
    · simp
    · exact List.forall_mem_append.mpr ⟨h, List.forall_mem_singleton.mpr (by decide)⟩
  have huserinfo := hsign _ (List.forall_mem_append.mpr ⟨huser, hsecret⟩)
  refine List.forall_mem_append.mpr ⟨List.forall_mem_append.mpr ⟨huserinfo, hhost⟩, ?_⟩
  split
  · exact List.forall_mem_cons.mpr ⟨by decide, isFront_of_mem_natText _⟩
  · simp

lemma space_lt_of_isPlain {c : Char} (hplain : Percent.isPlain c) (hspace : c ≠ ' ') : ' ' < c := by
  simp only [Percent.isPlain, Bool.and_eq_true, decide_eq_true_eq] at hplain
  exact lt_of_le_of_ne hplain.1 (Ne.symm hspace)

lemma space_lt_of_mem_encode {keep : Char → Bool} (hkeep : ∀ c, keep c → Percent.isPlain c ∧ c ≠ ' ')
    (t : Text) : ∀ c ∈ encode keep t, ' ' < c :=
  forall_mem_encode (fun c _ hc => space_lt_of_isPlain (hkeep c hc).1 (hkeep c hc).2) (by decide)
    (by decide)

lemma space_lt_of_mem_readQuery (k : Kind) (t : Text) :
    ∀ c ∈ suffixText '?' (readQuery k t), ' ' < c := by
  unfold readQuery
  split
  · refine List.forall_mem_cons.mpr ⟨by decide, space_lt_of_mem_encode ?_ _⟩
    intro c hc
    simp only [queryKeep, Bool.and_eq_true, decide_eq_true_eq] at hc
    exact ⟨hc.1.1, by simp_all⟩
  · simp [suffixText]

lemma space_lt_of_mem_readFragment (t : Text) :
    ∀ c ∈ suffixText '#' (readFragment t), ' ' < c := by
  unfold readFragment
  split
  · refine List.forall_mem_cons.mpr ⟨by decide, space_lt_of_mem_encode ?_ _⟩
    intro c hc
    simp only [fragmentKeep, Bool.and_eq_true, decide_eq_true_eq] at hc
    exact ⟨hc.1, by simp_all⟩
  · simp [suffixText]

lemma isWeb_of_readBehindSlashes? {scheme : String} (hs : IsScheme scheme.toList)
    (hk : Kind.ofScheme scheme = .web) {t : Text} {u : Url}
    (h : readBehindSlashes? scheme t = some u) : ∃ a, IsWeb u a := by
  unfold readBehindSlashes? at h
  obtain ⟨⟨username, password, rest⟩, huser, h⟩ := Option.bind_eq_some_iff.mp h
  dsimp only at h
  rw [hk, if_pos (by decide)] at h
  obtain ⟨host, hhost, h⟩ := Option.bind_eq_some_iff.mp h
  split at h
  · exact absurd h (by simp)
  · obtain ⟨⟨port, rest'⟩, -, h⟩ := Option.bind_eq_some_iff.mp h
    obtain rfl := Option.some.inj h
    rw [hk] at huser
    obtain ⟨husername, hpassword⟩ := isFront_of_readUser? huser
    obtain ⟨hne, hfront⟩ := isFront_of_mem_host hhost
    refine ⟨⟨username, password, host, port⟩, ?_⟩
    exact {
      kind := hk
      authority := rfl
      unguarded := rfl
      scheme := hs
      ne_nil := by simp [Authority.text, hne]
      front := isFront_of_mem_authority husername hpassword hfront
      query := space_lt_of_mem_readQuery _ _
      fragment := space_lt_of_mem_readFragment _ }

lemma exists_isWeb_of_parse? {s : String} {u : Url} (h : parse? s = some u) (hw : u.kind = .web) :
    ∃ a, IsWeb u a := by
  unfold parse? at h
  obtain ⟨⟨scheme, rest⟩, hscheme, h⟩ := Option.bind_eq_some_iff.mp h
  have hs := isScheme_of_readScheme? hscheme
  have hkind : ∀ scheme', (∃ a rest, u = complete scheme' (some a) rest) →
      Kind.ofScheme scheme' = .web := by
    rintro scheme' ⟨a, rest, rfl⟩
    exact hw
  dsimp only at h
  split at h
  · exact absurd (hkind _ (exists_complete_of_readFile? h)) (by decide)
  · next hk => exact isWeb_of_readBehindSlashes? hs hk h
  · next hk =>
    have hne : Kind.ofScheme scheme ≠ .web := by rw [hk]; decide
    split at h
    · exact absurd (hkind _ (exists_complete_of_readBehindSlashes? h)) hne
    all_goals
      rw [← Option.some.inj h] at hw
      exact absurd hw hne

/-! ### Other paths -/

/-- A path is read back as it is. -/
lemma IsPath.parsePath_segmentsText {segments : List Text} (h : IsPath segments) :
    parsePath .web (segmentsText segments) = segments := by
  rw [Url.parsePath_segmentsText h.ne_nil fun s hs => (h.isSegment s hs).solid,
    map_encode_clean_of_isSegment h.isSegment,
    addSegments_of_not_dot fun s hs => ⟨(h.isSegment s hs).not_single, (h.isSegment s hs).not_double⟩,
    List.nil_append]

/-- The components that are read from a path and what stands behind it. -/
lemma complete_segmentsText_append {scheme : String} (hk : Kind.ofScheme scheme = .web)
    (a : Authority) {segments : List Text} (h : IsPath segments) {rest : Text}
    (hrest : ∀ c ∈ rest.head?, endsPath c) :
    complete scheme (some a) (segmentsText segments ++ rest)
      = ⟨scheme, some a, false, .segments segments, readQuery .web rest, readFragment rest⟩ := by
  have hkept : ∀ c ∈ segmentsText segments, (!endsPath c) = true := by
    intro c hc
    have hsigns := (h.isWrittenPath.plain c hc).2.2
    simp only [List.mem_cons, not_or] at hsigns
    simp [endsPath, hsigns.1, hsigns.2.1]
  have htake : (segmentsText segments ++ rest).takeWhile (!endsPath ·) = segmentsText segments := by
    rw [List.takeWhile_append_of_pos hkept]
    cases rest with
    | nil => simp
    | cons c rest => simp [hrest c rfl]
  have hdrop : (segmentsText segments ++ rest).dropWhile (!endsPath ·) = rest := by
    rw [List.dropWhile_append_of_pos hkept]
    cases rest with
    | nil => rfl
    | cons c rest => simp [hrest c rfl]
  rw [complete]
  simp only [hk, htake, hdrop, h.parsePath_segmentsText]
  rfl

/-- If a web URL is read back from its own text, so is the URL with any other path. -/
lemma parse?_toText_withSegments {s : String} {u : Url} (hs : parse? s = some u)
    (hw : u.kind = .web) (hback : parse? u.toText = some u) {segments : List Text}
    (h : IsPath segments) :
    parse? (u.withSegments segments).toText = some (u.withSegments segments) := by
  obtain ⟨a, hu⟩ := exists_isWeb_of_parse? hs hw
  obtain ⟨base, hpath, hbase⟩ := exists_isPath_of_parse? hs hw
  obtain ⟨o, ho⟩ := exists_parse?_eq hu.scheme hu.kind hu.ne_nil hu.front
  let rest := suffixText '?' u.query ++ suffixText '#' u.fragment
  have hrest : ∀ c ∈ rest.head?, endsPath c := by
    cases hq : u.query with
    | some q => simp [rest, hq, suffixText, endsPath]
    | none => cases hf : u.fragment <;> simp [rest, hq, hf, suffixText, endsPath]
  have hread : ∀ list, IsPath list → parse? (u.withSegments list).toText
      = o.map fun x => ⟨u.scheme, some x, false, .segments list, readQuery .web rest,
          readFragment rest⟩ := by
    intro list hlist
    obtain ⟨p, ps, rfl⟩ := List.exists_cons_of_ne_nil hlist.ne_nil
    have htext : (u.withSegments (p :: ps)).text = u.scheme.toList ++ ':' :: '/' :: '/' ::
        (a.text ++ '/' :: (p ++ segmentsText ps ++ rest)) := by
      simp [text, frontText, withSegments, pathText, Path.text, hu.authority, hu.unguarded, rest]
    have hwritten : '/' :: (p ++ segmentsText ps ++ rest) = segmentsText (p :: ps) ++ rest := by
      simp
    have hlt : ∀ c ∈ '/' :: (p ++ segmentsText ps ++ rest), ' ' < c := by
      rw [hwritten, List.forall_mem_append]
      refine ⟨fun c hc => ?_, List.forall_mem_append.mpr ⟨hu.query, hu.fragment⟩⟩
      exact lt_of_lt_of_le (by decide) (hlist.isWrittenPath.plain c hc).1
    rw [toText, htext, ho _ (List.forall_mem_cons.mp hlt).2, hwritten]
    exact congrArg (Option.map · o) (funext fun x => complete_segmentsText_append hu.kind x hlist hrest)
  have hsame : u.withSegments base = u := by
    rw [withSegments, ← hpath]
  rw [← hsame, hread base hbase] at hback
  obtain ⟨x, hx, hurl⟩ := Option.map_eq_some_iff.mp hback
  rw [hread segments h, hx, Option.map_some]
  rw [← hsame, ← hurl]
  rfl

end Courier.Url
