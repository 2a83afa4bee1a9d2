import RpcGate.Proofs.RequestTable

/-!
# Which bodies are calls

A call is an object with a method, or an array that lists the same parts in
their order (`Call.isSome_ofJson?_iff`). Nothing else gets as far as the
whitelist, and an array is answered as the object of its parts
(`Server.respond_runs_calls_only`). A body that is too long is not looked into.
-/

namespace RpcGate

/-! ## The two forms -/

inductive Json.IsVersion : Json → Prop
  | none : IsVersion .null
  | text (t : Text) : IsVersion (.string t)

/-- An object whose method is a text and whose version, if there is one, is null or a text. -/
inductive IsRequestObject : Json → Prop
  | mk {members : List (Text × Json)} {method : Text} (hm : members.lookup "method".toList = some (.string method))
    (hv : ∀ version, members.lookup "jsonrpc".toList = some version → version.IsVersion) :
    IsRequestObject (.object members)

/-- Version and method, and at most two items more. -/
inductive IsRequestList : Json → Prop
  | mk {version : Json} {method : Text} {rest : List Json} (hv : version.IsVersion) (hl : rest.length ≤ 2) :
    IsRequestList (.array (version :: .string method :: rest))

/-- The object that gives items the names of a call's parts. -/
def Json.named (items : List Json) : Json := ofMembers (["jsonrpc", "method", "params", "id"].zip items)

namespace Call

theorem isSome_version?_iff (value : Json) : (version? value).isSome ↔ value.IsVersion := by
  constructor
  · intro h
    cases value with
    | null => exact .none
    | string t => exact .text t
    | _ => cases h
  · intro h
    cases h with
    | none => rfl
    | text t => rfl

theorem isSome_ofMembers?_iff (members : List (Text × Json)) :
    (ofMembers? members).isSome ↔ IsRequestObject (.object members) := by
  unfold ofMembers?
  constructor
  · intro h
    obtain ⟨c, hc⟩ := Option.isSome_iff_exists.1 h
    simp only [Option.bind_eq_bind, Option.bind_eq_some_iff] at hc
    obtain ⟨v, hv, value, hm, method, ht, -⟩ := hc
    obtain rfl := text?_eq_some ht
    refine .mk hm fun version hl => (isSome_version?_iff version).1 ?_
    rw [hl] at hv
    exact Option.isSome_iff_exists.2 ⟨v, hv⟩
  · intro h
    cases h with
    | @mk _ method hm hv =>
      have hversion : (version? ((members.lookup "jsonrpc".toList).getD .null)).isSome := by
        cases hl : members.lookup "jsonrpc".toList with
        | none => rfl
        | some version => exact (isSome_version?_iff version).2 (hv version hl)
      obtain ⟨v, hversion⟩ := Option.isSome_iff_exists.1 hversion
      rw [hversion, hm]
      rfl

theorem isSome_ofItems?_iff (items : List Json) : (ofItems? items).isSome ↔ IsRequestList (.array items) := by
  constructor
  · intro h
    obtain ⟨c, hc⟩ := Option.isSome_iff_exists.1 h
    unfold ofItems? at hc
    split at hc
    all_goals
      simp only [Option.bind_eq_bind, Option.bind_eq_some_iff, reduceCtorEq] at hc
    all_goals
      obtain ⟨v, hv, method, ht, -⟩ := hc
      obtain rfl := text?_eq_some ht
      exact .mk ((isSome_version?_iff _).1 (Option.isSome_iff_exists.2 ⟨v, hv⟩)) (by simp)
  · intro h
    cases h with
    | @mk version method rest hv hl =>
      obtain ⟨v, hv⟩ := Option.isSome_iff_exists.1 ((isSome_version?_iff version).2 hv)
      match rest, hl with
      | [], _ => simp only [ofItems?, hv]; rfl
      | [_], _ => simp only [ofItems?, hv]; rfl
      | [_, _], _ => simp only [ofItems?, hv]; rfl

theorem isSome_ofJson?_iff (value : Json) : (ofJson? value).isSome ↔ IsRequestObject value ∨ IsRequestList value := by
  cases value with
  | object members =>
    rw [ofJson?, isSome_ofMembers?_iff]
    exact ⟨.inl, fun h => h.resolve_right fun h => by cases h⟩
  | array items =>
    rw [ofJson?, isSome_ofItems?_iff]
    exact ⟨.inr, fun h => h.resolve_left fun h => by cases h⟩
  | _ =>
    refine ⟨fun h => (Bool.false_ne_true h).elim, fun h => ?_⟩
    rcases h with h | h
    · cases h
    · cases h

/-- A list of parts is the same call as the object of its parts. -/
theorem ofJson?_named {items : List Json} (h : IsRequestList (.array items)) :
    ofJson? (Json.named items) = ofJson? (.array items) := by
  cases h with
  | @mk version method rest hv hl =>
    match rest, hl with
    | [], _ => simp [ofJson?, ofItems?, ofMembers?, Json.named, Json.ofMembers, Json.lookup_put]
    | [_], _ => simp [ofJson?, ofItems?, ofMembers?, Json.named, Json.ofMembers, Json.lookup_put]
    | [_, _], _ => simp [ofJson?, ofItems?, ofMembers?, Json.named, Json.ofMembers, Json.lookup_put]

end Call

namespace Server

open Http

def Row.IsCall : Row → Prop
  | tooLong => False
  | notJson => False
  | notCall => False
  | forbidden .. => True
  | unknownMethod .. => True
  | run .. => True

section
variable {s : Server} {user : Text} {body body' : Bytes} {value value' : Json}

theorem Row.isCall_iff {row : Row} (h : row.Applies s user body) (hj : Json.ofBytes? body = some value) :
    row.IsCall ↔ body.length ≤ 2097152 ∧ (Call.ofJson? value).isSome := by
  cases row with
  | tooLong => exact iff_of_false id fun hl => Nat.not_lt_of_le hl.1 h
  | notJson => cases hj.symm.trans h.2
  | notCall =>
    obtain ⟨-, value', hj', hc⟩ := h
    obtain rfl := Option.some.inj (hj.symm.trans hj')
    simp [IsCall, hc]
  | forbidden value' c =>
    obtain ⟨hl, hj', hc, -⟩ := h
    obtain rfl := Option.some.inj (hj.symm.trans hj')
    simp [IsCall, hl, hc]
  | unknownMethod value' c =>
    obtain ⟨hl, hj', hc, -⟩ := h
    obtain rfl := Option.some.inj (hj.symm.trans hj')
    simp [IsCall, hl, hc]
  | run value' c =>
    obtain ⟨hl, hj', hc, -⟩ := h
    obtain rfl := Option.some.inj (hj.symm.trans hj')
    simp [IsCall, hl, hc]

theorem serveBody_not_call (hl : body.length ≤ 2097152) (hj : Json.ofBytes? body = some value)
    (hc : Call.ofJson? value = none) (uptime : Nat) :
    s.serveBody uptime user body = json 400 (CallResult.invalidRequest.reply false .null) := by
  rw [serveBody_of_le hl, dispatch]
  simp only [hj, hc]

theorem serveBody_same_call (hl : body.length ≤ 2097152) (hl' : body'.length ≤ 2097152)
    (hj : Json.ofBytes? body = some value) (hj' : Json.ofBytes? body' = some value')
    (hc : Call.ofJson? value = Call.ofJson? value') (uptime : Nat) :
    s.serveBody uptime user body = s.serveBody uptime user body' := by
  rw [serveBody_of_le hl, serveBody_of_le hl', dispatch, dispatch]
  simp only [hj, hj', hc]

end

theorem print_invalidRequest : (CallResult.invalidRequest.reply false .null).print =
    "\x7b\"error\":\x7b\"code\":-32600,\"message\":\"Invalid Request object\"\x7d,\"id\":null,\"result\":null\x7d".toList := by
  rfl

/-- Of the JSON bodies of an accepted user that are not too long those get to the whitelist that are a
request object or list its parts; all others get one answer, from every server. A list is answered as
the object of its parts. -/
theorem respond_runs_calls_only (s : Server) (p : Package) (uptime : Nat) (fresh : Text) (r : Request) (user : Text)
    (value : Json) (hm : r.method = "POST".toList) (hp : r.path = ['/'])
    (ha : s.authenticator.authenticate (authorization? r) = .accepted user)
    (hj : Json.ofBytes? r.body = some value) :
    let answer := unmarked (s.respond p uptime fresh r)
    ((∃ row, Row.Applies s user r.body row ∧ row.IsCall) ↔
      r.body.length ≤ 2097152 ∧ (IsRequestObject value ∨ IsRequestList value)) ∧
    (r.body.length ≤ 2097152 → ¬ IsRequestObject value → ¬ IsRequestList value →
      answer = ⟨400, [("content-type".toList, Text.utf8 "application/json".toList)], Text.utf8
        "\x7b\"error\":\x7b\"code\":-32600,\"message\":\"Invalid Request object\"\x7d,\"id\":null,\"result\":null\x7d".toList⟩ ∧
      Fails answer 400 (-32600) "Invalid Request object" false .null) ∧
    (2097152 < r.body.length →
      answer = ⟨413, [("content-type".toList, Text.utf8 "text/plain; charset=utf-8".toList)],
        Text.utf8 "Failed to buffer the request body: length limit exceeded".toList⟩) ∧
    (∀ items, value = .array items → IsRequestList value → r.body.length ≤ 2097152 → ∀ (fresh' : Text) (r' : Request),
      r'.method = "POST".toList → r'.path = ['/'] →
      s.authenticator.authenticate (authorization? r') = .accepted user →
      r'.body.length ≤ 2097152 → Json.ofBytes? r'.body = some (Json.named items) →
      answer = unmarked (s.respond p uptime fresh' r')) := by
  intro answer
  rw [show answer = s.serveBody uptime user r.body from respond_accepted hm hp ha p uptime fresh]
  refine ⟨?_, ?_, ?_, ?_⟩
  · rw [← Call.isSome_ofJson?_iff]
    constructor
    · rintro ⟨row, happlies, hcall⟩
      exact (Row.isCall_iff happlies hj).1 hcall
    · intro h
      have happlies := Row.applies_ofBody s user r.body
      exact ⟨_, happlies, (Row.isCall_iff happlies hj).2 h⟩
  · intro hl hobject hlist
    have hc : Call.ofJson? value = none := by
      rw [← Option.not_isSome_iff_eq_none, Call.isSome_ofJson?_iff]
      exact not_or.2 ⟨hobject, hlist⟩
    rw [serveBody_not_call hl hj hc]
    refine ⟨?_, fails_failed 400 keeps_invalidRequest _ false .null⟩
    rw [json, print_invalidRequest]
  · exact fun hl => if_pos hl
  · intro items hv hlist hl fresh' r' hm' hp' ha' hl' hj'
    subst hv
    rw [respond_accepted hm' hp' ha']
    exact serveBody_same_call hl hl' hj hj' (Call.ofJson?_named hlist).symm uptime

/-- A list with a version, a method, parameters and an identifier is run, and it is no object. -/
theorem respond_runs_calls_only_list :
    let s := plainServer ⟨[], false⟩
    let r := plainRequest (Text.utf8 "[\"2.0\",\"echo\",[1],7]".toList)
    ∃ value, s.authenticator.authenticate (authorization? r) = .accepted ['a'] ∧ Json.ofBytes? r.body = some value ∧
      ¬ IsRequestObject value ∧ ∃ row, Row.Applies s ['a'] r.body row ∧ row.IsCall := by
  intro s r
  have ha := authenticate_plainRequest ⟨[], false⟩ r.body
  have hj : Json.ofBytes? (Text.utf8 "[\"2.0\",\"echo\",[1],7]".toList) =
      some (.array [.ofString "2.0", .ofString "echo", .array [.ofNat 1], .ofNat 7]) := by
    rw [Json.ofBytes?, Text.ofUtf8?_utf8]; rfl
  obtain ⟨hcall, -⟩ := respond_runs_calls_only s ⟨[], [], []⟩ 0 [] r ['a'] _ rfl rfl ha hj
  refine ⟨_, ha, hj, ?_, hcall.2 ⟨by decide, .inr (.mk (.text _) (by decide))⟩⟩
  intro h
  cases h

end Server

end RpcGate
