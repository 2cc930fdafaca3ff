import Courier.Failure
import Courier.Proofs.Grammar
import Courier.Response
import Mathlib

/-!
# Failures and their messages

A response that tells no success is a failure, and the failure keeps all of it. The message that it gives is told
from the document that its body spells (`Document.message?`), repeated names and names of other kinds included; a
body that spells no document within the limits of readers has none.
-/

namespace Courier.Json

/-! ### Members of a name -/

section Members

variable {n k : String} {x : Json} {members sorted : List (String × Json)}

lemma find?_key_cons (m : String × Json) (members : List (String × Json)) :
    (m :: members).find? (·.1 = n) = if m.1 = n then some m else members.find? (·.1 = n) := by
  rw [List.find?_cons]
  by_cases hn : m.1 = n <;> simp [hn]

lemma find?_insert :
    (insert k x members).find? (·.1 = n) = if k = n then some (k, x) else members.find? (·.1 = n) := by
  induction members with
  | nil => exact find?_key_cons (k, x) []
  | cons m members ih =>
    rw [insert, find?_key_cons m]
    split
    · next heq =>
      rw [find?_key_cons, ← heq]
      split_ifs <;> rfl
    · next hne =>
      split
      · rw [find?_key_cons, find?_key_cons]
      · rw [find?_key_cons, ih]
        by_cases hn : m.1 = n
        · rw [if_pos hn, if_pos hn, if_neg fun h => hne (h.trans hn.symm)]
        · rw [if_neg hn, if_neg hn]

lemma find?_foldl_insert :
    (members.foldl (fun sorted m => insert m.1 m.2 sorted) sorted).find? (·.1 = n)
      = (members.reverse.find? (·.1 = n)).or (sorted.find? (·.1 = n)) := by
  induction members generalizing sorted with
  | nil => rfl
  | cons m members ih =>
    rw [List.foldl_cons, ih, find?_insert, List.reverse_cons, List.find?_append, find?_key_cons, Option.or_assoc]
    split_ifs <;> rfl

/-- Of several members of one name, an object has the last one. -/
lemma member?_ofMembers : (ofMembers members).member? n = (members.reverse.find? (·.1 = n)).map (·.2) := by
  rw [ofMembers, member?, find?_foldl_insert, List.find?_nil, Option.or_none]

end Members

/-! ### What a document holds -/

namespace Document

def string? : Document → Option String
  | string signs => (textOf? signs).map String.ofList
  | _ => none

/-- The first item, if the document is an array that has one. -/
def head? : Document → Option Document
  | array items => items.head?
  | _ => none

/-- The last member of a name, if the document is an object that has one. -/
def member? (name : String) : Document → Option Document
  | object members => (members.reverse.find? fun m => (textOf? m.1).map String.ofList = some name).map (·.2)
  | _ => none

/-- Where a message may stand in an error document, in the order in which it is looked for. -/
def candidates (d : Document) : List (Option Document) :=
  let first := (d.member? "errors").bind head?
  [d.member? "error", d.member? "message", d.member? "errorMessage", first.bind (member? "message"), first]

/-- The message of an error document: the first string that stands where a message may stand. -/
def message? (d : Document) : Option String := d.candidates.findSome? (·.bind string?)

variable {d : Document} {v : Json}

/-- The value that a document stands for is of the kind of the document. -/
inductive Image : Document → Json → Prop
  | null : Image null .null
  | bool (b : Bool) : Image (bool b) (.bool b)
  | number (n : Numeral) (m : Number) : Image (number n) (.number m)
  | string {signs : List Sign} {t : Text} (h : textOf? signs = some t) :
      Image (string signs) (.string (String.ofList t))
  | array {items : List Document} {vs : List Json} (h : itemsValue? items = some vs) :
      Image (array items) (.array vs)
  | object {members : List (List Sign × Document)} {ms : List (String × Json)} (h : membersValue? members = some ms) :
      Image (object members) (ofMembers ms)

lemma image_of_value? (h : d.value? = some v) : Image d v := by
  cases d with
  | null =>
    obtain rfl := Option.some.inj h
    exact .null
  | bool b =>
    obtain rfl := Option.some.inj h
    exact .bool b
  | number n =>
    obtain ⟨m, -, rfl⟩ := Option.map_eq_some_iff.mp h
    exact .number n m
  | string signs =>
    obtain ⟨t, ht, rfl⟩ := Option.map_eq_some_iff.mp h
    exact .string ht
  | array items =>
    obtain ⟨vs, hvs, rfl⟩ := Option.map_eq_some_iff.mp h
    exact .array hvs
  | object members =>
    obtain ⟨ms, hms, rfl⟩ := Option.map_eq_some_iff.mp h
    exact .object hms

lemma string?_eq (h : d.value? = some v) : v.string? = d.string? := by
  cases image_of_value? h with
  | string ht =>
    rw [string?, ht]
    rfl
  | _ => rfl

/-- Whether the one stands for the other, or there is neither. -/
def Agree : Option Document → Option Json → Prop := Option.Rel fun d v => d.value? = some v

lemma Agree.bind_string? {d : Option Document} {v : Option Json} (h : Agree d v) :
    v.bind Json.string? = d.bind string? := by
  cases h with
  | none => rfl
  | some h => exact string?_eq h

lemma Agree.bind {d : Option Document} {v : Option Json} {f : Document → Option Document} {g : Json → Option Json}
    (h : Agree d v) (hfg : ∀ {d v}, d.value? = some v → Agree (f d) (g v)) : Agree (d.bind f) (v.bind g) := by
  cases h with
  | none => exact .none
  | some h => exact hfg h

lemma agree_head? (h : d.value? = some v) : Agree d.head? v.head? := by
  cases image_of_value? h with
  | array hvs =>
    cases forall₂_isReadAs_iff.mpr ⟨le_rfl, hvs⟩ with
    | nil => exact .none
    | cons hv => exact .some hv.2
  | _ => exact .none

lemma agree_find? {limit : Nat} {members : List (List Sign × Document)} {ms : List (String × Json)}
    (h : List.Forall₂ (IsMemberReadAs limit) members ms) (name : String) :
    Agree ((members.find? fun m => (textOf? m.1).map String.ofList = some name).map (·.2))
      ((ms.find? (·.1 = name)).map (·.2)) := by
  induction h with
  | nil => exact .none
  | @cons m n members ms hm hms ih =>
    obtain ⟨hname, -, hv⟩ := hm
    rw [List.find?_cons, List.find?_cons, hname]
    by_cases hn : n.1 = name
    · rw [decide_eq_true hn, decide_eq_true (congrArg some hn)]
      exact .some hv
    · rw [decide_eq_false hn, decide_eq_false fun h => hn (Option.some.inj h)]
      exact ih

lemma agree_member? (h : d.value? = some v) (name : String) : Agree (d.member? name) (v.member? name) := by
  cases image_of_value? h with
  | object hms =>
    have hmembers := forall₂_isMemberReadAs_iff.mpr ⟨le_rfl, hms⟩
    rw [member?_ofMembers]
    exact agree_find? (List.rel_reverse hmembers) name
  | _ => exact .none

end Document

/-! ### Documents beyond the limits of readers -/

/-- A text without quotes, backslashes and controls is written as it is. -/
lemma exists_signs {t : Text} (h : ∀ c ∈ t, ¬ c < ' ' ∧ c ≠ '"' ∧ c ≠ '\\') :
    ∃ signs, signs.flatMap Sign.text = t ∧ textOf? signs = some t := by
  induction t with
  | nil => exact ⟨[], rfl, rfl⟩
  | cons c t ih =>
    obtain ⟨hc, ht⟩ := List.forall_mem_cons.mp h
    obtain ⟨signs, htext, hsigns⟩ := ih ht
    exact ⟨.plain c hc :: signs, by rw [List.flatMap_cons, htext]; rfl, by rw [textOf?, hsigns]; rfl⟩

namespace Document

/-- Empty arrays in each other. -/
def nested : Nat → Document
  | 0 => array []
  | n + 1 => array [nested n]

/-- Brackets in each other. -/
def nestedText : Nat → Text
  | 0 => ['[', ']']
  | n + 1 => '[' :: (nestedText n ++ [']'])

lemma isSpelling_nested (n : Nat) : (nested n).IsSpelling (nestedText n) := by
  have hblank : IsBlankText [] := by simp [IsBlankText]
  induction n with
  | zero => exact .array (.nil hblank)
  | succ n ih => simpa [nested, nestedText] using IsSpelling.array (.cons hblank ih hblank .nil)

/-- A text with a member beside the message of an error document. -/
def besideMessage (t : Text) : Text := "\x7b\"error\":\"x\",\"data\":".toList ++ (t ++ ['}'])

/-- Whatever spells a document may stand beside the message of an error document. -/
lemma exists_isText_besideMessage {d : Document} {t : Text} (h : d.IsSpelling t) :
    ∃ d' : Document, d'.IsText (besideMessage t) ∧ d'.message? = some "x" := by
  have hblank : IsBlankText [] := by simp [IsBlankText]
  obtain ⟨error, herror, herror'⟩ := exists_signs (t := "error".toList) (by simp)
  obtain ⟨x, hx, hx'⟩ := exists_signs (t := "x".toList) (by simp)
  obtain ⟨data, hdata, hdata'⟩ := exists_signs (t := "data".toList) (by simp)
  refine ⟨object [(error, string x), (data, d)], ?_, ?_⟩
  · have hfirst : IsMember IsSpelling (error, string x) _ := .mk hblank hblank (.string x)
    have hsecond : IsMember IsSpelling (data, d) _ := .mk hblank hblank h
    have hmembers := Listed.cons hblank hfirst hblank (More.cons hblank hsecond hblank .nil)
    have htext := IsText.mk hblank (IsSpelling.object hmembers) hblank
    have hfront : "\x7b\"error\":\"x\",\"data\":".toList = '{' :: '"' :: ("error".toList ++ '"' :: ':' :: '"' ::
        ("x".toList ++ '"' :: ',' :: '"' :: ("data".toList ++ ['"', ':']))) := by decide
    unfold besideMessage
    rw [hfront, ← herror, ← hx, ← hdata]
    simpa [quoted] using htext
  · have hmember : (object [(error, string x), (data, d)]).member? "error" = some (string x) := by
      simp [member?, herror', hdata']
    rw [message?, candidates, hmember, List.findSome?_cons, Option.bind_some, string?, hx', Option.map_some,
      String.ofList_toList]

end Document

end Courier.Json

namespace Courier

open Json

namespace FailureKind

lemma ofStatus_eq_notFound_iff {s : Status} : ofStatus s = .notFound ↔ s.code = 404 := by
  unfold ofStatus
  split <;> simp_all

end FailureKind

namespace Failure

open Document

/-- The message of an error document is the first string that stands where a message may stand. -/
lemma messageIn?_eq {d : Document} {v : Json} (h : d.value? = some v) : messageIn? v = d.message? := by
  have hname (name : String) := (Document.agree_member? h name).bind_string?
  have hfirst := (Document.agree_member? h "errors").bind Document.agree_head?
  have hmessage := (hfirst.bind fun h => Document.agree_member? h "message").bind_string?
  have hsplit (errors : Option Json) :
      (errors.bind fun errors => errors.head?.bind fun first =>
          ((first.member? "message").bind Json.string?).or first.string?)
        = (((errors.bind Json.head?).bind (Json.member? "message")).bind Json.string?).or
          ((errors.bind Json.head?).bind Json.string?) := by
    rw [← Option.bind_assoc]
    cases errors.bind Json.head? <;> rfl
  have hpair (x y : Option Document) :
      [x, y].findSome? (·.bind Document.string?) = (x.bind Document.string?).or (y.bind Document.string?) := by
    cases hx : x.bind Document.string? <;> cases hy : y.bind Document.string? <;> simp [hx, hy]
  have hcandidates : d.candidates = messageNames.map d.member?
      ++ [((d.member? "errors").bind Document.head?).bind (Document.member? "message"),
        (d.member? "errors").bind Document.head?] := rfl
  rw [Document.message?, hcandidates, List.findSome?_append, List.findSome?_map, hpair, messageIn?]
  simp only [Option.bind_eq_bind, hname, hsplit, hmessage, hfirst.bind_string?]
  rfl

lemma message_of_isReadable {f : Failure} {d : Document} (ht : d.IsText f.body.toList) (hd : d.IsReadable) :
    f.message = d.message?.getD (f.status.reason?.getD "unknown error") := by
  obtain ⟨v, hv⟩ := Document.isReadable_iff.mp hd
  have hbody : bodyMessage? f.body = d.message? := by
    rw [bodyMessage?, parse_eq_ok_iff.mpr ⟨d, ht, hv⟩]
    exact messageIn?_eq hv.2
  rw [message, hbody]

lemma message_of_forall_not_isReadable {f : Failure} (h : ∀ d : Document, d.IsText f.body.toList → ¬ d.IsReadable) :
    f.message = f.status.reason?.getD "unknown error" := by
  rw [message, bodyMessage?]
  split
  · next v hv =>
    obtain ⟨d, ht, hd⟩ := parse_eq_ok_iff.mp hv
    exact absurd (Document.isReadable_iff.mpr ⟨v, hd⟩) (h d ht)
  · rfl

/-- Whether the message of a JSON document is not found, because of what stands beside it. -/
def IsMissed (t : Text) : Prop :=
  (∃ d : Document, d.IsText (besideMessage t) ∧ d.message? = some "x")
    ∧ ∃ f, Response.accept ⟨400, by decide⟩ [] (String.ofList (besideMessage t)) = .error (.service f)
      ∧ f.message = "Bad Request"

lemma isMissed_of_isSpelling {d : Document} {t : Text} (hd : d.IsSpelling t)
    (hparse : (parse (besideMessage t)).toOption = none) : IsMissed t := by
  refine ⟨exists_isText_besideMessage hd, _, rfl, ?_⟩
  refine message_of_forall_not_isReadable fun d ht => not_isReadable_of_parse ?_ ht
  rw [String.toList_ofList, hparse]

/-- A response that does not tell success is kept whole as a failure, which tells that nothing is there for the
status 404 only. If its body spells a document within the limits of readers, the message of the failure is the first
string that stands where a message may stand in that document; else, and without such a string, it is the reason
phrase of the status. -/
theorem kept_whole_with_message {status : Status} (h : ¬ (200 ≤ status.code ∧ status.code ≤ 299)) (headers : Headers)
    (body : String) :
    ∃ f : Failure, Response.accept status headers body = .error (.service f)
      ∧ f.status = status ∧ f.headers = headers ∧ f.body = body
      ∧ (f.isNotFound = true ↔ status.code = 404)
      ∧ (∀ d : Document, d.IsText body.toList → d.IsReadable →
          f.message = d.message?.getD (status.reason?.getD "unknown error"))
      ∧ ((∀ d : Document, d.IsText body.toList → ¬ d.IsReadable) →
          f.message = status.reason?.getD "unknown error") := by
  have hfailure : status.isSuccess = false := by simpa [Status.isSuccess] using h
  refine ⟨⟨status, headers, body⟩, ?_, rfl, rfl, rfl, ?_, ?_, ?_⟩
  · rw [Response.accept, hfailure]
    rfl
  · rw [isNotFound, decide_eq_true_iff]
    exact FailureKind.ofStatus_eq_notFound_iff
  · intro d ht hd
    exact message_of_isReadable ht hd
  · intro h
    exact message_of_forall_not_isReadable h

/-- A member that is no string is passed over, also where an earlier one of its name is a string; and a status
without a reason phrase, with a body that is no document. -/
theorem kept_whole_with_message_mixed :
    let missing : Status := ⟨404, by decide⟩
    let unregistered : Status := ⟨599, by decide⟩
    let headers : Headers := [("x-id", "7")]
    let body := "\x7b\"error\":\"a\", \"error\":5, \"message\":null, \"errors\":[\"m\"]\x7d"
    (¬ (200 ≤ missing.code ∧ missing.code ≤ 299) ∧ ∃ f, Response.accept missing headers body = .error (.service f)
        ∧ f.headers = headers ∧ f.body = body ∧ f.isNotFound = true ∧ f.message = "m")
      ∧ ¬ (200 ≤ unregistered.code ∧ unregistered.code ≤ 299)
        ∧ ∃ f, Response.accept unregistered headers "error" = .error (.service f)
          ∧ f.headers = headers ∧ f.body = "error" ∧ f.isNotFound = false ∧ f.message = "unknown error" := by
  intro missing unregistered headers body
  have hmissing : ¬ (200 ≤ missing.code ∧ missing.code ≤ 299) := by decide
  have hunregistered : ¬ (200 ≤ unregistered.code ∧ unregistered.code ≤ 299) := by decide
  obtain ⟨f, haccept, -, hheaders, hbody, hnotFound, hmessage, -⟩ := kept_whole_with_message hmissing headers body
  obtain ⟨f', haccept', -, hheaders', hbody', hnotFound', -, hnone⟩ :=
    kept_whole_with_message hunregistered headers "error"
  refine ⟨⟨hmissing, f, haccept, hheaders, hbody, hnotFound.mpr rfl, ?_⟩,
    hunregistered, f', haccept', hheaders', hbody', ?_, ?_⟩
  · have hread : parse body.toList = .ok (.object [("error", .number (.integer 5)), ("errors", .array [.string "m"]),
        ("message", .null)]) := eq_ok_of_toOption (by decide +kernel)
    obtain ⟨d, ht, hd⟩ := parse_eq_ok_iff.mp hread
    rw [hmessage d ht (Document.isReadable_iff.mpr ⟨_, hd⟩), ← messageIn?_eq hd.2]
    decide
  · simpa [unregistered] using hnotFound'
  · have hread : (parse "error".toList).toOption = none := by decide +kernel
    exact hnone fun d ht => not_isReadable_of_parse hread ht

/-- A number beyond the range of doubles, a surrogate that is not one of a pair, and brackets that nest 127 deep, so
that with the braces around them the document nests deeper than readers admit: beside each of them the message of a
JSON document is not found. -/
theorem not_message_beyond_limits :
    IsMissed "1e400".toList ∧ IsMissed "\"\\ud83d\"".toList ∧ IsMissed (nestedText 126) := by
  refine ⟨?_, ?_, isMissed_of_isSpelling (isSpelling_nested 126) (by decide +kernel)⟩
  · let power : Exponent := ⟨'e', none, ['4', '0', '0'], by simp, by simp, by simp [IsDigits]⟩
    let number : Numeral := ⟨false, ['1'], none, some power, by simp [IsDigits], by simp, by simp⟩
    exact isMissed_of_isSpelling (.number number) (by decide +kernel)
  · let high : Sign := .unicode ['d', '8', '3', 'd'] ⟨rfl, by simp; decide⟩
    exact isMissed_of_isSpelling (.string [high]) (by decide +kernel)

end Failure

end Courier
