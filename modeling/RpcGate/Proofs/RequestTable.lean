import RpcGate.Listener.Service
import RpcGate.Proofs.Decision
import RpcGate.Proofs.Reading

/-!
# What a call is answered

A rejected request learns nothing but that it is rejected. The body of an
accepted user falls under exactly one row of a table, from a body that is too
long to a method that is run, and the row says what is answered, down to the
bytes and to what they read as (`respond_by_table`).
-/

namespace RpcGate

/-! ## Calls as they stand in a body -/

namespace Call

/-- The part of a call that has a name in an object and a place in an array. -/
def part? (name : String) (place : Nat) : Json → Option Json
  | .object members => members.lookup name.toList
  | .array items => items[place]?
  | _ => none

/-- What a call takes from its text; parts that are absent are null. -/
structure Parts (c : Call) (value : Json) : Prop where
  method : part? "method" 1 value = some (.string c.method)
  params : c.params = (part? "params" 2 value).getD .null
  id : c.id = (part? "id" 3 value).getD .null
  version : c.isVersion2 ↔ part? "jsonrpc" 0 value = some (.string "2.0".toList)

theorem text?_eq_some {value : Json} {t : Text} (h : text? value = some t) : value = .string t := by
  cases value with
  | string u => cases h; rfl
  | _ => cases h

theorem version?_eq_some {value : Json} {v : Option Text} (h : version? value = some v) :
    v = some "2.0".toList ↔ value = .string "2.0".toList := by
  cases value with
  | null => cases h; simp
  | string t => cases h; simp
  | _ => cases h

theorem parts_of_members {members : List (Text × Json)} {c : Call} (h : ofMembers? members = some c) :
    Parts c (.object members) := by
  unfold ofMembers? at h
  simp only [Option.bind_eq_bind, Option.bind_eq_some_iff, Option.pure_def, Option.some.injEq] at h
  obtain ⟨version, hv, value, hm, method, ht, rfl⟩ := h
  refine ⟨?_, rfl, rfl, ?_⟩
  · rw [part?, hm, text?_eq_some ht]
  · rw [isVersion2, decide_eq_true_eq, version?_eq_some hv, part?]
    cases members.lookup "jsonrpc".toList with
    | none => simp
    | some value => simp

theorem parts_of_items {items : List Json} {c : Call} (h : ofItems? items = some c) :
    Parts c (.array items) := by
  unfold ofItems? at h
  split at h
  all_goals
    simp only [Option.bind_eq_bind, Option.bind_eq_some_iff, Option.pure_def, Option.some.injEq,
      reduceCtorEq] at h
  all_goals
    obtain ⟨version, hv, method, ht, rfl⟩ := h
    refine ⟨by rw [text?_eq_some ht]; rfl, rfl, rfl, ?_⟩
    rw [isVersion2, decide_eq_true_eq, version?_eq_some hv, part?]
    simp

theorem parts_of_ofJson? {value : Json} {c : Call} (h : ofJson? value = some c) : Parts c value := by
  cases value with
  | object members => exact parts_of_members h
  | array items => exact parts_of_items h
  | _ => cases h

theorem fits_part? {name : String} {place n : Nat} {value part : Json} (h : value.Fits (n + 1))
    (hp : part? name place value = some part) : part.Fits n := by
  cases h with
  | object _ hm =>
    obtain ⟨before, after, rfl, -⟩ := List.lookup_eq_some_iff.1 hp
    exact hm (_, part) (List.mem_append_right before List.mem_cons_self)
  | array hi => exact hi part (List.mem_of_getElem? hp)
  | _ => cases hp

theorem fits_getD_part? {name : String} {place n : Nat} {value : Json} (h : value.Fits (n + 1)) :
    ((part? name place value).getD .null).Fits n := by
  cases hp : part? name place value with
  | none => exact .null
  | some part => exact fits_part? h hp

theorem Parts.fits {c : Call} {value : Json} {n : Nat} (hc : Parts c value) (h : value.Fits (n + 1)) :
    c.params.Fits n ∧ c.id.Fits n :=
  ⟨hc.params ▸ fits_getD_part? h, hc.id ▸ fits_getD_part? h⟩

end Call

/-! ## Replies -/

namespace Json

theorem lookup_cons_pair (other name : Text) (value : Json) (members : List (Text × Json)) :
    ((name, value) :: members).lookup other = if other = name then some value else members.lookup other := by
  rw [List.lookup_cons]
  by_cases h : other = name
  · simp [h]
  · have : (other == name) = false := by simp [h]
    rw [this, if_neg h]

theorem lookup_put (name other : Text) (value : Json) (members : List (Text × Json)) :
    (put name value members).lookup other = if other = name then some value else members.lookup other := by
  fun_induction put name value members with
  | case1 => rw [lookup_cons_pair]
  | case2 v rest =>
    rw [lookup_cons_pair, lookup_cons_pair]
    by_cases h : other = name
    · rw [if_pos h, if_pos h]
    · rw [if_neg h, if_neg h, if_neg h]
  | case3 n v rest hn _ ih =>
    rw [lookup_cons_pair, lookup_cons_pair, ih]
    by_cases h : other = n
    · subst h; rw [if_pos rfl, if_neg hn, if_pos rfl]
    · rw [if_neg h, if_neg h]
  | case4 n v rest hn hb => rw [lookup_cons_pair]

end Json

/-- A reply's members: the identifier, and in version 2.0 its mark and either a result or an error.
The older form has no mark and always both, the one that is not meant null. -/
structure IsReply (reply : Json) (version2 : Bool) (id : Json) (result error : Option Json) : Prop where
  id : reply.get? "id".toList = some id
  version : reply.get? "jsonrpc".toList = if version2 then some (.ofString "2.0") else none
  result : reply.get? "result".toList = if version2 then result else some (result.getD .null)
  error : reply.get? "error".toList = if version2 then error else some (error.getD .null)

theorem isReply_ok (result : Json) (version2 : Bool) (id : Json) :
    IsReply ((CallResult.ok result).reply version2 id) version2 id (some result) none := by
  cases version2 with
  | true => constructor <;> simp [CallResult.reply, Json.ofMembers, Json.get?, Json.lookup_put]
  | false => constructor <;> simp [CallResult.reply, Json.ofMembers, Json.get?, Json.lookup_put]

/-- The error of a failed call. -/
def errorObject (code : Int) (message : String) : Json :=
  Json.ofMembers [("code", .ofInt code), ("message", .ofString message)]

theorem get?_errorObject_code (code : Int) (message : String) :
    (errorObject code message).get? "code".toList = some (.ofInt code) := by
  simp [errorObject, Json.ofMembers, Json.get?, Json.lookup_put]

theorem get?_errorObject_message (code : Int) (message : String) :
    (errorObject code message).get? "message".toList = some (.ofString message) := by
  simp [errorObject, Json.ofMembers, Json.get?, Json.lookup_put]

theorem isReply_failed (code : Int) (message : String) (version2 : Bool) (id : Json) :
    IsReply ((CallResult.failed code message).reply version2 id) version2 id none
      (some (errorObject code message)) := by
  cases version2 with
  | true => constructor <;> simp [CallResult.reply, Json.ofMembers, Json.get?, Json.lookup_put, errorObject]
  | false => constructor <;> simp [CallResult.reply, Json.ofMembers, Json.get?, Json.lookup_put, errorObject]

/-! ## The header that counts -/

namespace Server

open Http

def IsVisible (b : UInt8) : Prop := b = 9 ∨ 32 ≤ b ∧ b < 127

/-- The value of the first authorization header. -/
def FirstValue (r : Request) (value : Bytes) : Prop :=
  ∃ before after, r.headers = before ++ ("authorization".toList, value) :: after ∧
    ∀ other, ("authorization".toList, other) ∉ before

/-- What a request says for itself: the text of its first authorization header, or nothing if it has
none or one that shows other signs than visible ASCII. -/
inductive Presents (r : Request) : Option Text → Prop
  | absent (h : ∀ value, ("authorization".toList, value) ∉ r.headers) : Presents r none
  | hidden {value : Bytes} (h : FirstValue r value) (hv : ∃ b ∈ value, ¬ IsVisible b) : Presents r none
  | shown {value : Bytes} {t : Text} (h : FirstValue r value) (hv : ∀ b ∈ value, IsVisible b)
    (ht : value = Text.utf8 t) : Presents r (some t)

section
variable {r : Request} {value : Bytes} {t : Text}

theorem lookup_eq_some_iff_firstValue : r.headers.lookup "authorization".toList = some value ↔ FirstValue r value := by
  rw [List.lookup_eq_some_iff]
  refine exists_congr fun before => exists_congr fun after => and_congr_right fun _ => ?_
  constructor
  · intro h other ho
    simpa using h _ ho
  · rintro h ⟨name, other⟩ ho
    rw [bne_iff_ne]
    rintro rfl
    exact h other ho

theorem lookup_eq_none_iff_absent :
    r.headers.lookup "authorization".toList = none ↔ ∀ value, ("authorization".toList, value) ∉ r.headers := by
  rw [List.lookup_eq_none_iff]
  constructor
  · intro h value hv
    simpa using h _ hv
  · rintro h ⟨name, value⟩ hv
    rw [bne_iff_ne]
    rintro rfl
    exact h value hv

theorem all_visible_iff : (value.all fun b => (32 ≤ b && b < 127) || b == 9) = true ↔ ∀ b ∈ value, IsVisible b := by
  simp only [List.all_eq_true, Bool.or_eq_true, Bool.and_eq_true, decide_eq_true_eq, beq_iff_eq, IsVisible]
  exact forall₂_congr fun b _ => or_comm

theorem lt_of_isVisible {b : UInt8} (h : IsVisible b) : b < 128 := by
  rcases h with rfl | ⟨-, h⟩
  · decide
  · exact UInt8.lt_trans h (by decide)

theorem visible?_eq_some_iff : visible? value = some t ↔ (∀ b ∈ value, IsVisible b) ∧ value = Text.utf8 t := by
  unfold visible?
  constructor
  · intro h
    split at h
    · next hv =>
      have hv := all_visible_iff.1 hv
      refine ⟨hv, ?_⟩
      rw [← Option.some.inj h, Text.utf8_map_ofNat fun b hb => lt_of_isVisible (hv b hb)]
    · cases h
  · rintro ⟨hv, ht⟩
    rw [if_pos (all_visible_iff.2 hv)]
    refine congrArg some (Text.utf8_injective ?_)
    rw [Text.utf8_map_ofNat fun b hb => lt_of_isVisible (hv b hb), ht]

theorem visible?_eq_none_iff : visible? value = none ↔ ∃ b ∈ value, ¬ IsVisible b := by
  unfold visible?
  by_cases hv : ∀ b ∈ value, IsVisible b
  · rw [if_pos (all_visible_iff.2 hv)]
    exact ⟨fun h => absurd h (Option.some_ne_none _), fun ⟨b, hb, hn⟩ => absurd (hv b hb) hn⟩
  · rw [if_neg fun h => hv (all_visible_iff.1 h)]
    exact ⟨fun _ => by simpa using hv, fun _ => rfl⟩

theorem presents_iff (r : Request) (header : Option Text) : Presents r header ↔ authorization? r = header := by
  constructor
  · intro h
    unfold authorization?
    cases h with
    | absent h => rw [lookup_eq_none_iff_absent.2 h, Option.bind_none]
    | hidden h hv => rw [lookup_eq_some_iff_firstValue.2 h, Option.bind_some, visible?_eq_none_iff.2 hv]
    | shown h hv ht => rw [lookup_eq_some_iff_firstValue.2 h, Option.bind_some, visible?_eq_some_iff.2 ⟨hv, ht⟩]
  · rintro rfl
    unfold authorization?
    cases hl : r.headers.lookup "authorization".toList with
    | none => exact .absent (lookup_eq_none_iff_absent.1 hl)
    | some value =>
      rw [Option.bind_some]
      cases ht : visible? value with
      | none => exact .hidden (lookup_eq_some_iff_firstValue.1 hl) (visible?_eq_none_iff.1 ht)
      | some t =>
        obtain ⟨hv, ht⟩ := visible?_eq_some_iff.1 ht
        exact .shown (lookup_eq_some_iff_firstValue.1 hl) hv ht

end

end Server

namespace CallResult

/-- The parts of a reply besides the identifier. -/
def part : CallResult → Json
  | ok result => result
  | failed code message => errorObject code message

/-- A reply is made of its identifier and its part, the mark of version 2.0, and null. -/
theorem exists_reply_eq (r : CallResult) (version2 : Bool) (id : Json) :
    ∃ given, r.reply version2 id = Json.ofMembers given ∧
      ∀ m ∈ given, m.2 = id ∨ m.2 = r.part ∨ m.2 = .ofString "2.0" ∨ m.2 = .null := by
  cases r with
  | ok result =>
    cases version2 with
    | true => exact ⟨_, rfl, by simp [part]⟩
    | false => exact ⟨_, rfl, by simp [part]⟩
  | failed code message =>
    cases version2 with
    | true => exact ⟨_, rfl, by simp [part, errorObject]⟩
    | false => exact ⟨_, rfl, by simp [part, errorObject]⟩

theorem fits_reply {r : CallResult} {id : Json} {n : Nat} (version2 : Bool) (hr : r.part.Fits n) (hid : id.Fits n) :
    (r.reply version2 id).Fits (n + 1) := by
  obtain ⟨given, hreply, hparts⟩ := exists_reply_eq r version2 id
  rw [hreply]
  refine Json.fits_ofMembers fun m hm => ?_
  rcases hparts m hm with h | h | h | h
  · exact h ▸ hid
  · exact h ▸ hr
  · exact h ▸ .string _
  · exact h ▸ .null

theorem keeps_reply {r : CallResult} {id : Json} (version2 : Bool) (hr : r.part.Keeps) (hid : id.Keeps) :
    (r.reply version2 id).Keeps := by
  obtain ⟨given, hreply, hparts⟩ := exists_reply_eq r version2 id
  rw [hreply]
  refine Json.keeps_ofMembers fun m hm => ?_
  rcases hparts m hm with h | h | h | h
  · exact h ▸ hid
  · exact h ▸ hr
  · exact h ▸ Json.keeps_string _
  · exact h ▸ Json.keeps_null

end CallResult

theorem fits_errorObject (code : Int) (message : String) (n : Nat) : (errorObject code message).Fits (n + 1) := by
  refine Json.fits_ofMembers (n := n) fun m hm => ?_
  rcases List.mem_cons.1 hm with rfl | hm
  · exact .number _
  · rw [List.mem_singleton.1 hm]
    exact .string _

theorem keeps_errorObject {code : Int} (h : (Json.ofInt code).Keeps) (message : String) : (errorObject code message).Keeps := by
  refine Json.keeps_ofMembers fun m hm => ?_
  rcases List.mem_cons.1 hm with rfl | hm
  · exact h
  · rw [List.mem_singleton.1 hm]
    exact Json.keeps_string _

namespace Server

open Http

/-- The answer is a reply: its status, its one header, the bytes of its body, and what these read as. -/
structure Carries (answer : Response) (status : Nat) (reply : Json) : Prop where
  status : answer.status = status
  headers : answer.headers = [("content-type".toList, Text.utf8 "application/json".toList)]
  body : answer.body = Text.utf8 reply.print
  read : Json.ofBytes? answer.body = reply.reread?

theorem carries_json (status : Nat) {reply : Json} (h : reply.Fits Json.Reading.depthLimit) :
    Carries (json status reply) status reply :=
  ⟨rfl, rfl, rfl, Json.ofBytes?_print h⟩

/-- The answer is a failure: a reply of this form and identifier with this error. What it reads as is
the reply itself, but for numbers in the identifier. -/
def Fails (answer : Response) (status : Nat) (code : Int) (message : String) (version2 : Bool) (id : Json) : Prop :=
  ∃ reply error, Carries answer status reply ∧ IsReply reply version2 id none (some error) ∧
    error.get? "code".toList = some (.ofInt code) ∧ error.get? "message".toList = some (.ofString message) ∧
    (id.Keeps → Json.ofBytes? answer.body = some reply)

theorem fails_failed (status : Nat) {code : Int} (hc : (Json.ofInt code).Keeps) (message : String) (version2 : Bool) {id : Json}
    (hid : id.Fits 126) :
    Fails (json status ((CallResult.failed code message).reply version2 id)) status code message version2 id := by
  have hcarries := carries_json status
    (CallResult.fits_reply (r := .failed code message) (n := 126) version2 (fits_errorObject code message 125) hid)
  refine ⟨_, _, hcarries, isReply_failed code message version2 id, get?_errorObject_code code message,
    get?_errorObject_message code message, fun hk => ?_⟩
  rw [hcarries.read]
  exact CallResult.keeps_reply version2 (keeps_errorObject hc message) hk

theorem keeps_parseError : (Json.ofInt (-32700)).Keeps := Json.keeps_negative (by decide) (by decide)

theorem keeps_invalidRequest : (Json.ofInt (-32600)).Keeps := Json.keeps_negative (by decide) (by decide)

theorem keeps_methodNotFound : (Json.ofInt (-32601)).Keeps := Json.keeps_negative (by decide) (by decide)

/-! ## The table for an accepted user -/

/-- The rows, in the order in which they are tried. -/
inductive Row
  | tooLong
  | notJson
  | notCall
  | forbidden (value : Json) (c : Call)
  | unknownMethod (value : Json) (c : Call)
  | run (value : Json) (c : Call)

namespace Row

/-- What the body of `user` has to be for the row. -/
def Applies (s : Server) (user : Text) (body : Bytes) : Row → Prop
  | tooLong => 2097152 < body.length
  | notJson => body.length ≤ 2097152 ∧ Json.ofBytes? body = none
  | notCall => body.length ≤ 2097152 ∧ ∃ value, Json.ofBytes? body = some value ∧ Call.ofJson? value = none
  | forbidden value c => body.length ≤ 2097152 ∧ Json.ofBytes? body = some value ∧ Call.ofJson? value = some c ∧
    s.whitelist.allows user c.method = false
  | unknownMethod value c => body.length ≤ 2097152 ∧ Json.ofBytes? body = some value ∧ Call.ofJson? value = some c ∧
    s.whitelist.allows user c.method = true ∧ c.method ∉ methodNames
  | run value c => body.length ≤ 2097152 ∧ Json.ofBytes? body = some value ∧ Call.ofJson? value = some c ∧
    s.whitelist.allows user c.method = true ∧ c.method ∈ methodNames

/-- What the row answers. A call that may not be made gets the same answer whatever it asks for. -/
def Shows (s : Server) (uptime : Nat) (answer : Response) : Row → Prop
  | tooLong => answer = ⟨413, [("content-type".toList, Text.utf8 "text/plain; charset=utf-8".toList)],
    Text.utf8 "Failed to buffer the request body: length limit exceeded".toList⟩
  | notJson => Fails answer 400 (-32700) "Parse error" false .null
  | notCall => Fails answer 400 (-32600) "Invalid Request object" false .null
  | forbidden _ _ => answer = ⟨403, [], []⟩
  | unknownMethod value c => c.Parts value ∧ Fails answer 404 (-32601) "Method not found" c.isVersion2 c.id
  | run value c => c.Parts value ∧ ∃ reply result, Carries answer 200 reply ∧
    IsReply reply c.isVersion2 c.id (some result) none ∧
    s.call? uptime c.method c.params = some result ∧ (c.method = "echo".toList → result = c.params) ∧
    (result.Keeps → c.id.Keeps → Json.ofBytes? answer.body = some reply)

/-- The row that a body falls under. -/
def ofBody (s : Server) (user : Text) (body : Bytes) : Row :=
  if 2097152 < body.length then tooLong
  else match Json.ofBytes? body with
  | none => notJson
  | some value => match Call.ofJson? value with
    | none => notCall
    | some c =>
      if s.whitelist.allows user c.method = false then forbidden value c
      else if c.method ∈ methodNames then run value c
      else unknownMethod value c

theorem applies_ofBody (s : Server) (user : Text) (body : Bytes) :
    (ofBody s user body).Applies s user body := by
  unfold ofBody
  split
  · next hl => exact hl
  · next hl =>
    have hl := Nat.le_of_not_lt hl
    split
    · next hj => exact ⟨hl, hj⟩
    · next value hj =>
      split
      · next hc => exact ⟨hl, value, hj, hc⟩
      · next c hc =>
        split
        · next ha => exact ⟨hl, hj, hc, ha⟩
        · next ha =>
          have ha := eq_true_of_ne_false ha
          split
          · next hm => exact ⟨hl, hj, hc, ha, hm⟩
          · next hm => exact ⟨hl, hj, hc, ha, hm⟩

theorem eq_ofBody {s : Server} {user : Text} {body : Bytes} {row : Row} (h : row.Applies s user body) :
    row = ofBody s user body := by
  unfold ofBody
  cases row with
  | tooLong => exact (if_pos h).symm
  | notJson => rw [if_neg (Nat.not_lt_of_le h.1), h.2]
  | notCall =>
    obtain ⟨hl, value, hj, hc⟩ := h
    rw [if_neg (Nat.not_lt_of_le hl)]
    simp only [hj, hc]
  | forbidden value c =>
    obtain ⟨hl, hj, hc, ha⟩ := h
    rw [if_neg (Nat.not_lt_of_le hl)]
    simp only [hj, hc, ha, if_true]
  | unknownMethod value c =>
    obtain ⟨hl, hj, hc, ha, hm⟩ := h
    rw [if_neg (Nat.not_lt_of_le hl)]
    simp only [hj, hc, ha, hm, Bool.true_eq_false, if_false]
  | run value c =>
    obtain ⟨hl, hj, hc, ha, hm⟩ := h
    rw [if_neg (Nat.not_lt_of_le hl)]
    simp only [hj, hc, ha, hm, Bool.true_eq_false, if_false, if_true]

end Row

theorem call?_eq_none_iff (s : Server) (uptime : Nat) (method : Text) (params : Json) :
    s.call? uptime method params = none ↔ method ∉ methodNames := by
  unfold call? methodNames
  by_cases h1 : method = "echo".toList
  · simp [h1]
  by_cases h2 : method = "getrpcinfo".toList
  · simp [h2]
  by_cases h3 : method = "help".toList
  · simp [h3]
  by_cases h4 : method = "uptime".toList
  · simp [h4]
  rw [if_neg h1, if_neg h2, if_neg h3, if_neg h4]
  simp only [List.mem_cons, List.not_mem_nil, or_false, h1, h2, h3, h4, not_false_eq_true]

theorem call?_echo (s : Server) (uptime : Nat) (params : Json) :
    s.call? uptime "echo".toList params = some params := by
  unfold call?
  rw [if_pos rfl]

theorem fits_call? {s : Server} {uptime : Nat} {method : Text} {params result : Json}
    (h : s.call? uptime method params = some result) (hp : params.Fits 126) : result.Fits 126 := by
  unfold call? at h
  split at h
  · cases h
    exact hp
  split at h
  · cases h
    refine Json.fits_ofMembers (n := 125) fun m hm => ?_
    simp only [List.mem_cons, List.not_mem_nil, or_false] at hm
    rcases hm with rfl | rfl | rfl
    · exact .string _
    · exact .number _
    · exact .bool _
  split at h
  · cases h
    refine .array fun item hi => ?_
    obtain ⟨name, -, rfl⟩ := List.mem_map.1 hi
    exact .string name
  split at h
  · cases h
    exact .number _
  · cases h

theorem carries_result {s : Server} {uptime : Nat} {c : Call} {result : Json}
    (h : s.call? uptime c.method c.params = some result) (hp : c.params.Fits 126) (hid : c.id.Fits 126) :
    Carries (json 200 ((CallResult.ok result).reply c.isVersion2 c.id)) 200
      ((CallResult.ok result).reply c.isVersion2 c.id) :=
  carries_json 200 (CallResult.fits_reply (r := .ok result) (n := 126) c.isVersion2 (fits_call? h hp) hid)

theorem serveBody_of_le {s : Server} {uptime : Nat} {user : Text} {body : Bytes} (h : body.length ≤ 2097152) :
    s.serveBody uptime user body = s.dispatch uptime user body :=
  if_neg (Nat.not_lt_of_le h)

theorem shows_serveBody {s : Server} {user : Text} {body : Bytes} {row : Row} (h : row.Applies s user body)
    (uptime : Nat) : row.Shows s uptime (s.serveBody uptime user body) := by
  cases row with
  | tooLong => exact if_pos h
  | notJson =>
    obtain ⟨hl, hj⟩ := h
    rw [serveBody_of_le hl, dispatch, hj]
    exact fails_failed 400 keeps_parseError _ false .null
  | notCall =>
    obtain ⟨hl, value, hj, hc⟩ := h
    rw [serveBody_of_le hl, dispatch]
    simp only [hj, hc]
    exact fails_failed 400 keeps_invalidRequest _ false .null
  | forbidden value c =>
    obtain ⟨hl, hj, hc, ha⟩ := h
    rw [serveBody_of_le hl, dispatch]
    simp only [hj, hc, ha]
    rfl
  | unknownMethod value c =>
    obtain ⟨hl, hj, hc, ha, hm⟩ := h
    have hparts := Call.parts_of_ofJson? hc
    have hid := (hparts.fits (n := 126) (Json.fits_of_ofBytes? hj)).2
    rw [serveBody_of_le hl, dispatch]
    simp only [hj, hc, ha, (call?_eq_none_iff s uptime c.method c.params).2 hm]
    exact ⟨hparts, fails_failed 404 keeps_methodNotFound _ c.isVersion2 hid⟩
  | run value c =>
    obtain ⟨hl, hj, hc, ha, hm⟩ := h
    have hr : s.call? uptime c.method c.params ≠ none := fun hr =>
      (call?_eq_none_iff s uptime c.method c.params).1 hr hm
    obtain ⟨result, hr⟩ := Option.ne_none_iff_exists'.1 hr
    have hparts := Call.parts_of_ofJson? hc
    obtain ⟨hparams, hid⟩ := hparts.fits (n := 126) (Json.fits_of_ofBytes? hj)
    have hcarries := carries_result hr hparams hid
    rw [serveBody_of_le hl, dispatch]
    simp only [hj, hc, ha, hr]
    refine ⟨hparts, _, result, hcarries, isReply_ok result c.isVersion2 c.id, hr, ?_, fun hresult hid => ?_⟩
    · intro he
      rw [he, call?_echo] at hr
      exact (Option.some.inj hr).symm
    · exact hcarries.read.trans (CallResult.keeps_reply c.isVersion2 hresult hid)

/-! ## The whole answer -/

/-- An answer less the identifier that it carries. -/
def unmarked (answer : Response) : Response :=
  { answer with headers := answer.headers.filter (·.1 ≠ requestId) }

theorem unmarked_respond (s : Server) (p : Package) (uptime : Nat) (fresh : Text) (r : Request)
    (h : ∀ header ∈ (s.route p uptime r).headers, header.1 ≠ requestId) :
    unmarked (s.respond p uptime fresh r) = s.route p uptime r := by
  have hf : (s.route p uptime r).headers.filter (·.1 ≠ requestId) = (s.route p uptime r).headers :=
    List.filter_eq_self.2 fun header hm => by simpa using h header hm
  unfold unmarked respond
  simp only [Headers.orElse]
  split
  · rw [hf]
  · rw [List.filter_append, hf]
    simp

theorem route_post {s : Server} {r : Request} (hm : r.method = "POST".toList) (hp : r.path = ['/'])
    (p : Package) (uptime : Nat) : s.route p uptime r =
      match s.authenticator.authenticate (authorization? r) with
      | .rejected => unauthorized
      | .accepted user => s.serveBody uptime user r.body := by
  have hh : r.path ≠ "/health".toList := by rw [hp]; decide
  unfold route serveUser
  rw [if_neg hh]
  cases s.authenticator.authenticate (authorization? r) with
  | rejected => rfl
  | accepted user => simp [hm, hp]

theorem headers_serveBody (s : Server) (uptime : Nat) (user : Text) (body : Bytes) :
    ∀ header ∈ (s.serveBody uptime user body).headers, header.1 ≠ requestId := by
  have content (value : Text) : ∀ header ∈ [("content-type".toList, Text.utf8 value)], header.1 ≠ requestId := by
    intro header hm
    rw [List.mem_singleton.1 hm]
    have hname : "content-type".toList ≠ requestId := by decide
    exact hname
  unfold serveBody dispatch
  split
  · exact content _
  split
  · exact content _
  split
  · exact content _
  split
  · simp [Response.bare]
  split
  · exact content _
  · exact content _

theorem respond_rejected {s : Server} {r : Request} (hm : r.method = "POST".toList) (hp : r.path = ['/'])
    (h : s.authenticator.authenticate (authorization? r) = .rejected) (p : Package) (uptime : Nat) (fresh : Text) :
    unmarked (s.respond p uptime fresh r) = unauthorized := by
  have hr : s.route p uptime r = unauthorized := by rw [route_post hm hp, h]
  rw [unmarked_respond, hr]
  intro header hh
  rw [hr] at hh
  rw [List.mem_singleton.1 hh]
  decide

theorem respond_accepted {s : Server} {r : Request} {user : Text} (hm : r.method = "POST".toList)
    (hp : r.path = ['/']) (h : s.authenticator.authenticate (authorization? r) = .accepted user) (p : Package)
    (uptime : Nat) (fresh : Text) :
    unmarked (s.respond p uptime fresh r) = s.serveBody uptime user r.body := by
  have hr : s.route p uptime r = s.serveBody uptime user r.body := by rw [route_post hm hp, h]
  rw [unmarked_respond, hr]
  rw [hr]
  exact headers_serveBody s uptime user r.body

/-- Of a body that is too long no more needs to be known than that. -/
theorem respond_take_body (s : Server) (p : Package) (uptime : Nat) (fresh : Text) (r : Request) :
    s.respond p uptime fresh { r with body := r.body.take (bodyLimit + 1) } = s.respond p uptime fresh r := by
  have hbody (user : Text) : s.serveBody uptime user (r.body.take (bodyLimit + 1)) = s.serveBody uptime user r.body := by
    unfold serveBody
    rw [List.length_take]
    by_cases h : bodyLimit < r.body.length
    · rw [if_pos h, if_pos (by omega)]
    · rw [if_neg h, if_neg (by omega), List.take_of_length_le (by omega)]
  have hroute : s.route p uptime { r with body := r.body.take (bodyLimit + 1) } = s.route p uptime r := by
    simp only [route, serveUser, authorization?, hbody]
  unfold respond
  rw [hroute]

/-- A rejected request gets the challenge and nothing else, the same from every listener. The body of
an accepted user falls under exactly one row of the table, and gets what that row shows; the methods
are those that `help` lists. -/
theorem respond_by_table (s : Server) (p : Package) (uptime : Nat) (fresh : Text) (r : Request)
    (hm : r.method = "POST".toList) (hp : r.path = ['/']) :
    ∃ header, (∀ other, Presents r other ↔ other = header) ∧
    (s.authenticator.authenticate header = .rejected →
      unmarked (s.respond p uptime fresh r) =
        ⟨401, [("www-authenticate".toList, Text.utf8 "Basic realm=\"jsonrpc\"".toList)], []⟩ ∧
      ∀ (s' : Server) (p' : Package) (uptime' : Nat) (fresh' : Text) (r' : Request) (header' : Option Text),
        r'.method = "POST".toList → r'.path = ['/'] → Presents r' header' →
        s'.authenticator.authenticate header' = .rejected →
        unmarked (s'.respond p' uptime' fresh' r') = unmarked (s.respond p uptime fresh r)) ∧
    (∀ user, s.authenticator.authenticate header = .accepted user →
      (∃! row, Row.Applies s user r.body row) ∧
      ∀ row, Row.Applies s user r.body row → row.Shows s uptime (unmarked (s.respond p uptime fresh r))) ∧
    (∀ params, s.call? uptime "help".toList params = some (.array (methodNames.map Json.string))) := by
  refine ⟨authorization? r, fun other => (presents_iff r other).trans eq_comm, ?_, ?_, ?_⟩
  · intro h
    refine ⟨respond_rejected hm hp h p uptime fresh, ?_⟩
    intro s' p' uptime' fresh' r' header' hm' hp' hh h'
    rw [← (presents_iff r' header').1 hh] at h'
    rw [respond_rejected hm hp h, respond_rejected hm' hp' h']
  · intro user h
    refine ⟨⟨Row.ofBody s user r.body, Row.applies_ofBody s user r.body, fun _ hr => Row.eq_ofBody hr⟩, ?_⟩
    intro row hr
    rw [respond_accepted hm hp h]
    exact shows_serveBody hr uptime
  · intro params
    rfl

section

/-- A listener with one plain user, and a POST of his with some body. -/
def plainServer (whitelist : Whitelist) : Server :=
  ⟨⟨.loopback, 8332, 0⟩, ⟨Registry.ofEntries (some ⟨['a'], ['r']⟩) [], none⟩, whitelist⟩

def plainRequest (body : Bytes) : Request :=
  ⟨"POST".toList, ['/'], [("authorization".toList, Text.utf8 (BasicHeader.encode ['a'] ['r']))], body⟩

theorem authorization?_plainRequest (body : Bytes) :
    authorization? (plainRequest body) = some (BasicHeader.encode ['a'] ['r']) := by
  have hvisible : visible? (Text.utf8 (BasicHeader.encode ['a'] ['r'])) = some (BasicHeader.encode ['a'] ['r']) := by decide +kernel
  exact hvisible

theorem authenticate_plainRequest (whitelist : Whitelist) (body : Bytes) :
    (plainServer whitelist).authenticator.authenticate (authorization? (plainRequest body)) = .accepted ['a'] := by
  rw [authorization?_plainRequest]
  exact Authenticator.authenticate_legacy none ⟨['a'], ['r']⟩ (by decide)

end

/-- A user who may only call `help` calls `echo`, and somebody else comes without a header. -/
theorem respond_by_table_forbidden :
    let s := plainServer ⟨[(['a'], ["help".toList])], true⟩
    let p : Package := ⟨[], [], []⟩
    let call := plainRequest (Text.utf8 "\x7b\"method\":\"echo\",\"id\":7\x7d".toList)
    let other : Request := ⟨"POST".toList, ['/'], [], []⟩
    s.authenticator.authenticate (authorization? call) = .accepted ['a'] ∧
      unmarked (s.respond p 0 [] call) = ⟨403, [], []⟩ ∧
      s.authenticator.authenticate (authorization? other) = .rejected ∧
      (unmarked (s.respond p 0 [] other)).status = 401 := by
  intro s p call other
  have ha := authenticate_plainRequest ⟨[(['a'], ["help".toList])], true⟩ call.body
  have ho : s.authenticator.authenticate (authorization? other) = .rejected := by rfl
  have hj : Json.ofBytes? (Text.utf8 "\x7b\"method\":\"echo\",\"id\":7\x7d".toList) =
      some (.object [("id".toList, .ofNat 7), ("method".toList, .ofString "echo")]) := by
    rw [Json.ofBytes?, Text.ofUtf8?_utf8]; rfl
  have hrow : Row.Applies s ['a'] call.body (.forbidden _ ⟨none, "echo".toList, .null, .ofNat 7⟩) :=
    ⟨by decide, hj, by rfl, by decide⟩
  refine ⟨ha, ?_, ho, ?_⟩
  · obtain ⟨header, hheader, -, haccepted, -⟩ := respond_by_table s p 0 [] call rfl rfl
    obtain rfl := (hheader _).1 ((presents_iff call _).2 rfl)
    exact (haccepted ['a'] ha).2 _ hrow
  · obtain ⟨header, hheader, hrejected, -⟩ := respond_by_table s p 0 [] other rfl rfl
    obtain rfl := (hheader _).1 ((presents_iff other _).2 rfl)
    rw [(hrejected ho).1]

/-- Blanks are no JSON, and yet so many of them get no reply that says so. -/
theorem respond_too_long :
    let s := plainServer ⟨[], false⟩
    let r := plainRequest (List.replicate 2097153 32)
    let answer := unmarked (s.respond ⟨[], [], []⟩ 0 [] r)
    s.authenticator.authenticate (authorization? r) = .accepted ['a'] ∧ Json.ofBytes? r.body = none ∧
      answer.status = 413 ∧ ¬ Fails answer 400 (-32700) "Parse error" false .null := by
  intro s r answer
  have ha := authenticate_plainRequest ⟨[], false⟩ r.body
  have hanswer : answer = tooLong := by
    rw [show answer = s.serveBody 0 ['a'] r.body from respond_accepted rfl rfl ha ⟨[], [], []⟩ 0 []]
    exact if_pos (by rw [show r.body = List.replicate 2097153 32 from rfl, List.length_replicate]; decide)
  refine ⟨ha, Json.ofBytes?_blanks 2097153, by rw [hanswer]; rfl, ?_⟩
  rintro ⟨reply, error, hcarries, -⟩
  have hstatus := hcarries.status
  rw [hanswer] at hstatus
  cases hstatus

end Server

end RpcGate
