import RpcGate.Proofs.RequestObject

/-!
# The form of a reply

A reply of version 2.0 has a mark and one of result and error, an older one has
no mark and both. Neither is lost when a reply is printed and read again. An
object is answered in the form of the version that it names, unless it is no
request: then it is answered in the older form whatever it names
(`Server.respond_in_form`).
-/

namespace RpcGate

structure IsNewReply (reply : Json) : Prop where
  version : reply.get? "jsonrpc".toList = some (.ofString "2.0")
  id : (reply.get? "id".toList).isSome
  oneOf : (reply.get? "result".toList).isSome ≠ (reply.get? "error".toList).isSome

structure IsOldReply (reply : Json) : Prop where
  version : reply.get? "jsonrpc".toList = none
  id : (reply.get? "id".toList).isSome
  result : (reply.get? "result".toList).isSome
  error : (reply.get? "error".toList).isSome

section
variable {reply id : Json} {result error : Option Json} {members : List (Text × Json)} {c : Call}

theorem IsReply.isNewReply (h : IsReply reply true id result error) (ho : result.isSome ≠ error.isSome) :
    IsNewReply reply where
  version := h.version
  id := by rw [h.id]; rfl
  oneOf := by rw [h.result, h.error]; exact ho

theorem IsReply.isOldReply (h : IsReply reply false id result error) : IsOldReply reply where
  version := h.version
  id := by rw [h.id]; rfl
  result := by rw [h.result]; rfl
  error := by rw [h.error]; rfl

theorem IsNewReply.reread {w : Json} (h : IsNewReply reply) (hw : reply.reread? = some w) : IsNewReply w where
  version := Json.get?_reread_of_keeps hw h.version (Json.keeps_string _)
  id := by rw [Json.isSome_get?_reread hw]; exact h.id
  oneOf := by rw [Json.isSome_get?_reread hw, Json.isSome_get?_reread hw]; exact h.oneOf

theorem IsOldReply.reread {w : Json} (h : IsOldReply reply) (hw : reply.reread? = some w) : IsOldReply w where
  version := by rw [← Option.isNone_iff_eq_none, ← Option.not_isSome, Json.isSome_get?_reread hw, h.version]; rfl
  id := by rw [Json.isSome_get?_reread hw]; exact h.id
  result := by rw [Json.isSome_get?_reread hw]; exact h.result
  error := by rw [Json.isSome_get?_reread hw]; exact h.error

/-! ## What an object asks for -/

/-- The object names version 2.0. -/
def AsksVersion2 (members : List (Text × Json)) : Prop :=
  members.lookup "jsonrpc".toList = some (.string "2.0".toList)

def HasMethod (members : List (Text × Json)) : Prop :=
  ∃ method, members.lookup "method".toList = some (.string method)

theorem Call.isVersion2_iff (h : ofJson? (.object members) = some c) : c.isVersion2 ↔ AsksVersion2 members :=
  (parts_of_ofJson? h).version

theorem Call.hasMethod_of_ofJson? (h : ofJson? (.object members) = some c) : HasMethod members :=
  ⟨c.method, (parts_of_ofJson? h).method⟩

theorem Call.exists_ofJson? (hv : AsksVersion2 members) (hm : HasMethod members) :
    ∃ c, ofJson? (.object members) = some c := by
  obtain ⟨method, hm⟩ := hm
  refine Option.isSome_iff_exists.1 ((isSome_ofJson?_iff _).2 (.inl (.mk hm fun version hl => ?_)))
  rw [hv] at hl
  cases hl
  exact .text _

end

namespace Server

open Http

section
variable {s : Server} {user : Text} {body : Bytes} {members : List (Text × Json)} {answer : Response} {c : Call}

/-- The object asks for a method that the user may not call. -/
def AsksForbidden (s : Server) (user : Text) (members : List (Text × Json)) : Prop :=
  ∃ method, members.lookup "method".toList = some (.string method) ∧ s.whitelist.allows user method = false

/-- The answer is a JSON reply of this form, and so is what its body reads as. -/
def Replies (answer : Response) (form : Json → Prop) : Prop :=
  ∃ status reply, Carries answer status reply ∧ form reply ∧ ∀ read, Json.ofBytes? answer.body = some read → form read

theorem Carries.replies_new {status : Nat} {reply : Json} (h : Carries answer status reply) (hn : IsNewReply reply) :
    Replies answer IsNewReply :=
  ⟨status, reply, h, hn, fun _ hread => hn.reread (h.read.symm.trans hread)⟩

theorem Carries.replies_old {status : Nat} {reply : Json} (h : Carries answer status reply) (ho : IsOldReply reply) :
    Replies answer IsOldReply :=
  ⟨status, reply, h, ho, fun _ hread => ho.reread (h.read.symm.trans hread)⟩

/-- The answer is a reply in the form that the object gets. -/
structure AnswersInForm (members : List (Text × Json)) (answer : Response) : Prop where
  new : AsksVersion2 members ∧ HasMethod members → Replies answer IsNewReply
  old : ¬ (AsksVersion2 members ∧ HasMethod members) → Replies answer IsOldReply

theorem answersInForm_of_call {reply id : Json} {result error : Option Json} {status : Nat}
    (hc : Call.ofJson? (.object members) = some c) (ha : Carries answer status reply)
    (h : IsReply reply c.isVersion2 id result error) (ho : result.isSome ≠ error.isSome) : AnswersInForm members answer := by
  refine ⟨fun hasks => ?_, fun hasks => ?_⟩
  · rw [(Call.isVersion2_iff hc).2 hasks.1] at h
    exact ha.replies_new (h.isNewReply ho)
  · have hold : c.isVersion2 = false := by
      rw [← Bool.not_eq_true]
      exact fun hv => hasks ⟨(Call.isVersion2_iff hc).1 hv, Call.hasMethod_of_ofJson? hc⟩
    rw [hold] at h
    exact ha.replies_old h.isOldReply

theorem answersInForm_of_no_call {status : Nat} {code : Int} {message : String}
    (hc : Call.ofJson? (.object members) = none) (h : Fails answer status code message false .null) :
    AnswersInForm members answer := by
  obtain ⟨reply, error, ha, hr, -⟩ := h
  refine ⟨fun hasks => ?_, fun _ => ha.replies_old hr.isOldReply⟩
  obtain ⟨c, hsome⟩ := Call.exists_ofJson? hasks.1 hasks.2
  rw [hc] at hsome
  cases hsome

theorem serveBody_in_form (hl : body.length ≤ 2097152) (hj : Json.ofBytes? body = some (.object members)) (uptime : Nat) :
    (s.AsksForbidden user members ∧ s.serveBody uptime user body = ⟨403, [], []⟩) ∨
      AnswersInForm members (s.serveBody uptime user body) := by
  have happlies := Row.applies_ofBody s user body
  have hshows := shows_serveBody happlies uptime
  cases hrow : Row.ofBody s user body with
  | tooLong =>
    rw [hrow] at happlies
    exact absurd happlies (Nat.not_lt_of_le hl)
  | notJson =>
    rw [hrow] at happlies
    cases hj.symm.trans happlies.2
  | notCall =>
    rw [hrow] at happlies hshows
    obtain ⟨-, value, hj', hc⟩ := happlies
    obtain rfl := Option.some.inj (hj.symm.trans hj')
    exact .inr (answersInForm_of_no_call hc hshows)
  | forbidden value c =>
    rw [hrow] at happlies hshows
    obtain ⟨-, hj', hc, ha⟩ := happlies
    obtain rfl := Option.some.inj (hj.symm.trans hj')
    exact .inl ⟨⟨c.method, (Call.parts_of_ofJson? hc).method, ha⟩, hshows⟩
  | unknownMethod value c =>
    rw [hrow] at happlies hshows
    obtain ⟨-, hj', hc, -⟩ := happlies
    obtain rfl := Option.some.inj (hj.symm.trans hj')
    obtain ⟨-, reply, error, ha, hr, -⟩ := hshows
    exact .inr (answersInForm_of_call hc ha hr (by simp))
  | run value c =>
    rw [hrow] at happlies hshows
    obtain ⟨-, hj', hc, -⟩ := happlies
    obtain rfl := Option.some.inj (hj.symm.trans hj')
    obtain ⟨-, reply, result, ha, hr, -⟩ := hshows
    exact .inr (answersInForm_of_call hc ha hr (by simp))

end

/-- An object of an accepted user gets a bare refusal, if its method is forbidden, or a reply. The reply
is of version 2.0 if the object names it and has a method, and older if it names no version or another.
An object that names version 2.0 and has no method is told so in the older form. A body that is too
long gets no reply. -/
theorem respond_in_form (s : Server) (p : Package) (uptime : Nat) (fresh : Text) (r : Request) (user : Text)
    (members : List (Text × Json)) (hm : r.method = "POST".toList) (hp : r.path = ['/'])
    (ha : s.authenticator.authenticate (authorization? r) = .accepted user)
    (hj : Json.ofBytes? r.body = some (.object members)) :
    let answer := unmarked (s.respond p uptime fresh r)
    (2097152 < r.body.length →
      answer = ⟨413, [("content-type".toList, Text.utf8 "text/plain; charset=utf-8".toList)],
        Text.utf8 "Failed to buffer the request body: length limit exceeded".toList⟩) ∧
    (r.body.length ≤ 2097152 → (s.AsksForbidden user members ∧ answer = ⟨403, [], []⟩) ∨
      ((AsksVersion2 members → HasMethod members → Replies answer IsNewReply) ∧
        (¬ AsksVersion2 members → Replies answer IsOldReply) ∧
        (AsksVersion2 members → ¬ HasMethod members → Replies answer IsOldReply))) := by
  intro answer
  rw [show answer = s.serveBody uptime user r.body from respond_accepted hm hp ha p uptime fresh]
  refine ⟨fun hl => if_pos hl, fun hl => (serveBody_in_form hl hj uptime).imp_right fun h => ?_⟩
  exact ⟨fun hv hmethod => h.new ⟨hv, hmethod⟩, fun hv => h.old fun hasks => hv hasks.1,
    fun _ hmethod => h.old fun hasks => hmethod hasks.2⟩

/-- A method that there is not, asked for in version 2.0. -/
theorem respond_in_form_unknown :
    let s := plainServer ⟨[], false⟩
    let r := plainRequest (Text.utf8 "\x7b\"jsonrpc\":\"2.0\",\"method\":\"m\"\x7d".toList)
    let answer := unmarked (s.respond ⟨[], [], []⟩ 0 [] r)
    ∃ members, s.authenticator.authenticate (authorization? r) = .accepted ['a'] ∧
      Json.ofBytes? r.body = some (.object members) ∧ AsksVersion2 members ∧ HasMethod members ∧
      answer.status = 404 ∧ Replies answer IsNewReply := by
  intro s r answer
  have ha := authenticate_plainRequest ⟨[], false⟩ r.body
  have hj : Json.ofBytes? (Text.utf8 "\x7b\"jsonrpc\":\"2.0\",\"method\":\"m\"\x7d".toList) =
      some (.object [("jsonrpc".toList, .ofString "2.0"), ("method".toList, .ofString "m")]) := by
    rw [Json.ofBytes?, Text.ofUtf8?_utf8]; rfl
  have hl : r.body.length ≤ 2097152 := by decide
  have hstatus : answer.status = 404 := by
    rw [show answer = s.serveBody 0 ['a'] r.body from respond_accepted rfl rfl ha _ 0 [], serveBody_of_le hl, dispatch,
      show Json.ofBytes? r.body = _ from hj]
    rfl
  have hmethod : HasMethod [("jsonrpc".toList, .ofString "2.0"), ("method".toList, .ofString "m")] := ⟨['m'], rfl⟩
  refine ⟨_, ha, hj, rfl, hmethod, hstatus, ?_⟩
  rcases (respond_in_form s ⟨[], [], []⟩ 0 [] r ['a'] _ rfl rfl ha hj).2 hl with ⟨-, hbare⟩ | ⟨hnew, -⟩
  · rw [show answer = ⟨403, [], []⟩ from hbare] at hstatus
    cases hstatus
  · exact hnew rfl hmethod

/-- An object that names version 2.0 and has no method: the reply, as it is read back, has no mark, and
both a result and an error. -/
theorem respond_answers_old :
    let s := plainServer ⟨[], false⟩
    let r := plainRequest (Text.utf8 "\x7b\"jsonrpc\":\"2.0\",\"id\":1\x7d".toList)
    let answer := unmarked (s.respond ⟨[], [], []⟩ 0 [] r)
    ∃ members reply, s.authenticator.authenticate (authorization? r) = .accepted ['a'] ∧
      Json.ofBytes? r.body = some (.object members) ∧ AsksVersion2 members ∧
      Json.ofBytes? answer.body = some reply ∧ IsOldReply reply ∧ ¬ IsNewReply reply := by
  intro s r answer
  have ha := authenticate_plainRequest ⟨[], false⟩ r.body
  have hj : Json.ofBytes? (Text.utf8 "\x7b\"jsonrpc\":\"2.0\",\"id\":1\x7d".toList) =
      some (.object [("id".toList, .ofNat 1), ("jsonrpc".toList, .ofString "2.0")]) := by
    rw [Json.ofBytes?, Text.ofUtf8?_utf8]; rfl
  have hanswer : answer = json 400 (CallResult.invalidRequest.reply false .null) := by
    rw [show answer = s.serveBody 0 ['a'] r.body from respond_accepted rfl rfl ha _ 0 []]
    exact serveBody_not_call (by decide) hj rfl 0
  obtain ⟨reply, _, hcarries, hr, -, -, hread⟩ :=
    fails_failed 400 keeps_invalidRequest "Invalid Request object" false (Json.Fits.null (n := 126))
  have hold := hr.isOldReply
  refine ⟨_, reply, ha, hj, rfl, ?_, hold, fun hnew => ?_⟩
  · rw [hanswer]
    exact hread Json.keeps_null
  · cases hold.version.symm.trans hnew.version

end Server

end RpcGate
