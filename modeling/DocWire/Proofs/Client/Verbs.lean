import DocWire.Proofs.Connection.Answering
import DocWire.Proofs.Target.Sendable

/-! The verbs of a client take every answer through the same check, so that a failure is the same
error for each of them. They differ in what they take out of a success. -/

namespace DocWire

namespace Json.Value

theorem int64?_eq_one_iff {v : Value} : v.int64? = some 1 ↔ v = .number (.int 1) := by
  constructor
  · intro h
    unfold int64? at h
    split at h
    · split at h
      · rw [Option.some.inj h]
      · cases h
    · cases h
  · rintro rfl
    rfl

/-- The value is taken for this text: it is the string, or a number that is written so. -/
def Spells (v : Value) (s : String) : Prop :=
  v = .string s ∨ ∃ n, v = .number n ∧ n.text = s

end Json.Value

namespace Reply

variable {answer : Bytes} {s : String} {doc : Json.Value} {code : FailureCode}

def IsText (answer : Bytes) (s : String) : Prop :=
  answer = textTag :: Utf8.encode s

/-- The answer is this document, and its member `ok` is the integer one. -/
def Reports (answer : Bytes) (doc : Json.Value) : Prop :=
  ∃ s, answer = documentTag :: s ∧ Json.parse s = .ok doc ∧ doc.get? "ok" = some (.number (.int 1))

/-- The answer is no success. -/
inductive Refuses : Bytes → FailureCode → Prop where
  | empty : Refuses [] .emptyResponse
  | unknown (tag : UInt8) (s : Bytes) (hTag : tag ∉ [textTag, documentTag, refusalTag]) :
      Refuses (tag :: s) .unknownTag
  | noText (s : Bytes) (hText : ∀ t, s ≠ Utf8.encode t) : Refuses (textTag :: s) .malformed
  | noDocument (s : Bytes) (fault : Json.Fault) (hParse : Json.parse s = .error fault) :
      Refuses (documentTag :: s) .malformed
  | noReason (s : Bytes) (fault : Json.Fault) (hParse : Json.parse s = .error fault) :
      Refuses (refusalTag :: s) .malformed
  | reason (s : Bytes) (doc : Json.Value) (hParse : Json.parse s = .ok doc) :
      Refuses (refusalTag :: s) .server
  | unsuccessful (s : Bytes) (doc : Json.Value) (hParse : Json.parse s = .ok doc)
      (hOk : doc.get? "ok" ≠ some (.number (.int 1))) : Refuses (documentTag :: s) .server

/-- The answer is a success, and this is what it is read as. -/
inductive Succeeds (answer : Bytes) : Response → Prop where
  | text (s : String) (hText : IsText answer s) : Succeeds answer (.text s)
  | document (doc : Json.Value) (hReports : Reports answer doc) : Succeeds answer (.document doc)

theorem succeeds_or_refuses (answer : Bytes) :
    (∃ r, Succeeds answer r) ∨ ∃ code, Refuses answer code := by
  cases answer with
  | nil => exact Or.inr ⟨_, .empty⟩
  | cons tag s =>
      by_cases hKnown : tag ∈ [textTag, documentTag, refusalTag]
      · simp only [List.mem_cons, List.not_mem_nil, or_false] at hKnown
        rcases hKnown with rfl | rfl | rfl
        · by_cases hText : ∃ t, s = Utf8.encode t
          · obtain ⟨t, rfl⟩ := hText
            exact Or.inl ⟨_, .text t rfl⟩
          · exact Or.inr ⟨_, .noText s fun t h => hText ⟨t, h⟩⟩
        · cases hParse : Json.parse s with
          | error fault => exact Or.inr ⟨_, .noDocument s fault hParse⟩
          | ok doc =>
              by_cases hOk : doc.get? "ok" = some (.number (.int 1))
              · exact Or.inl ⟨_, .document doc ⟨s, rfl, hParse, hOk⟩⟩
              · exact Or.inr ⟨_, .unsuccessful s doc hParse hOk⟩
        · cases hParse : Json.parse s with
          | error fault => exact Or.inr ⟨_, .noReason s fault hParse⟩
          | ok doc => exact Or.inr ⟨_, .reason s doc hParse⟩
      · exact Or.inr ⟨_, .unknown tag s hKnown⟩

theorem reportsSuccess_iff :
    Response.reportsSuccess doc = true ↔ doc.get? "ok" = some (.number (.int 1)) := by
  simp only [Response.reportsSuccess, decide_eq_true_eq, Option.bind_eq_some_iff,
    Json.Value.int64?_eq_one_iff, exists_eq_right]

theorem check_of_succeeds {r : Response} (h : Succeeds answer r) :
    (readAnswer answer).check = .ok r := by
  cases h with
  | text s hText =>
      rw [hText, readAnswer, if_pos rfl, readText, Utf8.decode?_encode]
      rfl
  | document doc hReports =>
      obtain ⟨s, rfl, hParse, hOk⟩ := hReports
      rw [readAnswer, if_neg (by decide), if_pos rfl, readDocument, hParse]
      exact if_pos (reportsSuccess_iff.2 hOk)

theorem check_of_refuses (h : Refuses answer code) :
    ∃ message, (readAnswer answer).check = .error (.server ⟨code, message⟩) := by
  cases h with
  | empty => exact ⟨_, rfl⟩
  | unknown tag s hTag =>
      simp only [List.mem_cons, List.not_mem_nil, or_false, not_or] at hTag
      rw [readAnswer, if_neg hTag.1, if_neg hTag.2.1, if_neg hTag.2.2]
      exact ⟨_, rfl⟩
  | noText s hText =>
      rw [readAnswer, if_pos rfl, readText]
      cases hDecode : Utf8.decode? s with
      | ok t => exact absurd (Utf8.encode_of_decode? (by rw [hDecode]; rfl)).symm (hText t)
      | error fault => exact ⟨_, rfl⟩
  | noDocument s fault hParse =>
      rw [readAnswer, if_neg (by decide), if_pos rfl, readDocument, hParse]
      exact ⟨_, rfl⟩
  | noReason s fault hParse =>
      rw [readAnswer, if_neg (by decide), if_neg (by decide), if_pos rfl, readRefusal, hParse]
      exact ⟨_, rfl⟩
  | reason s doc hParse =>
      rw [readAnswer, if_neg (by decide), if_neg (by decide), if_pos rfl, readRefusal, hParse]
      exact ⟨_, rfl⟩
  | unsuccessful s doc hParse hOk =>
      rw [readAnswer, if_neg (by decide), if_pos rfl, readDocument, hParse]
      exact ⟨_, if_neg (mt reportsSuccess_iff.1 hOk)⟩

/-- A success lets through what it is read as, and a failure lets nothing through. -/
theorem check_eq_ok_iff {r : Response} : (readAnswer answer).check = .ok r ↔ Succeeds answer r := by
  refine ⟨fun h => ?_, check_of_succeeds⟩
  rcases succeeds_or_refuses answer with ⟨r', hSucceeds⟩ | ⟨code, hRefuses⟩
  · cases h.symm.trans (check_of_succeeds hSucceeds)
    exact hSucceeds
  · obtain ⟨message, hCheck⟩ := check_of_refuses hRefuses
    cases h.symm.trans hCheck

end Reply

section Items

variable {ε α β : Type} {x : Except ε α} {f : α → Except ε β} {b : β} {e : ε}

theorem bind_eq_ok_iff : x >>= f = .ok b ↔ ∃ a, x = .ok a ∧ f a = .ok b := by
  cases x <;> simp [Bind.bind, Except.bind]

theorem bind_eq_error_iff :
    x >>= f = .error e ↔ x = .error e ∨ ∃ a, x = .ok a ∧ f a = .error e := by
  cases x <;> simp [Bind.bind, Except.bind]

end Items

namespace Reply

variable {answer : Bytes} {key : String} {r : Response} {v : Json.Value} {e : Error}

/-- The answer reports success, and the document has this member. -/
def Holds (answer : Bytes) (key : String) (v : Json.Value) : Prop :=
  ∃ doc, Reports answer doc ∧ doc.get? key = some v

theorem item_text (s key : String) :
    (Response.text s).item key =
      if key = "msg" then .ok (.string s) else .error (.protocol (.missingItem key)) := rfl

theorem item_document {doc : Json.Value} (h : Reports answer doc) (key : String) :
    (Response.document doc).item key =
      match doc.get? key with
      | some v => .ok v
      | none => .error (.protocol (.missingItem key)) := by
  obtain ⟨s, -, -, hOk⟩ := h
  have hCheck : (Response.document doc).check = .ok (.document doc) :=
    if_pos (reportsSuccess_iff.2 hOk)
  rw [Response.item, hCheck]
  rfl

/-- A text is its own message, and a document that reports success has its members for items. -/
theorem item_eq_ok_iff :
    (∃ r, Succeeds answer r ∧ r.item key = .ok v) ↔
      (key = "msg" ∧ ∃ s, IsText answer s ∧ v = .string s) ∨ Holds answer key v := by
  constructor
  · rintro ⟨r, ⟨s, hText⟩ | ⟨doc, hReports⟩, hItem⟩
    · rw [item_text] at hItem
      split at hItem
      next hKey => exact Or.inl ⟨hKey, s, hText, (Except.ok.inj hItem).symm⟩
      next hKey => cases hItem
    · rw [item_document hReports] at hItem
      split at hItem
      next w hGet => exact Or.inr ⟨doc, hReports, hGet.trans (congrArg some (Except.ok.inj hItem))⟩
      next hGet => cases hItem
  · rintro (⟨rfl, s, hText, rfl⟩ | ⟨doc, hReports, hGet⟩)
    · exact ⟨.text s, .text s hText, rfl⟩
    · refine ⟨.document doc, .document doc hReports, ?_⟩
      rw [item_document hReports, hGet]

/-- A success that does not hold an item breaks the protocol. -/
theorem item_eq_error (hSucceeds : Succeeds answer r) (h : r.item key = .error e) :
    ∃ fault, e = .protocol fault := by
  cases hSucceeds with
  | text s hText =>
      rw [item_text] at h
      split at h
      · cases h
      · exact ⟨_, (Except.error.inj h).symm⟩
  | document doc hReports =>
      rw [item_document hReports] at h
      split at h
      · cases h
      · exact ⟨_, (Except.error.inj h).symm⟩

theorem textItem_eq_ok_iff {s : String} : Client.textItem key v = .ok s ↔ v.Spells s := by
  cases v <;> simp [Client.textItem, Json.Value.Spells]

theorem textItem_eq_error (h : Client.textItem key v = .error e) :
    ∃ fault, e = .protocol fault := by
  cases v <;> cases h <;> exact ⟨_, rfl⟩

/-- An item that is a text, taken out of a success. -/
theorem text_eq_ok_iff {s : String} :
    (∃ r, Succeeds answer r ∧ (r.item key >>= Client.textItem key) = .ok s) ↔
      (key = "msg" ∧ IsText answer s) ∨ ∃ v, Holds answer key v ∧ v.Spells s := by
  have hStep (r : Response) : (r.item key >>= Client.textItem key) = .ok s ↔
      ∃ v, r.item key = .ok v ∧ v.Spells s := by
    simp only [bind_eq_ok_iff, textItem_eq_ok_iff]
  simp only [hStep]
  constructor
  · rintro ⟨r, hSucceeds, v, hItem, hSpells⟩
    rcases item_eq_ok_iff.1 ⟨r, hSucceeds, hItem⟩ with ⟨hKey, t, hText, rfl⟩ | hHolds
    · obtain rfl : t = s := by simpa [Json.Value.Spells] using hSpells
      exact Or.inl ⟨hKey, hText⟩
    · exact Or.inr ⟨v, hHolds, hSpells⟩
  · rintro (⟨hKey, hText⟩ | ⟨v, hHolds, hSpells⟩)
    · obtain ⟨r, hSucceeds, hItem⟩ := item_eq_ok_iff.2 (Or.inl ⟨hKey, s, hText, rfl⟩)
      exact ⟨r, hSucceeds, .string s, hItem, Or.inl rfl⟩
    · obtain ⟨r, hSucceeds, hItem⟩ := item_eq_ok_iff.2 (Or.inr hHolds)
      exact ⟨r, hSucceeds, v, hItem, hSpells⟩

theorem text_eq_error (hSucceeds : Succeeds answer r)
    (h : (r.item key >>= Client.textItem key) = .error e) : ∃ fault, e = .protocol fault := by
  rcases bind_eq_error_iff.1 h with hItem | ⟨v, -, hText⟩
  · exact item_eq_error hSucceeds hItem
  · exact textItem_eq_error hText

end Reply

section Verbs

variable {σ α β : Type} {q : Question} {answer : Bytes}

/-- The ending of an operation with this result. -/
def Ending.ofResult : Except Error α → Ending α
  | .ok a => .returned a
  | .error e => .failed e

theorem Ending.ofResult_eq_returned_iff {x : Except Error α} {a : α} :
    Ending.ofResult x = .returned a ↔ x = .ok a := by
  cases x <;> simp [ofResult]

theorem Outcome.andThen_of_returned {o : Outcome σ α} {a : α} (h : o.ending = .returned a)
    (f : α → Except Error β) : o.andThen f = o.endingWith (.ofResult (f a)) := by
  simp only [andThen, h]
  cases f a <;> rfl

theorem Outcome.andThen_andThen {o : Outcome σ Response} {r : Response}
    (h : o.ending = .returned r) (f : Response → Except Error α) :
    (o.andThen (·.check)).andThen f = o.endingWith (.ofResult (r.check >>= f)) := by
  rw [andThen_of_returned h]
  cases hCheck : r.check with
  | ok r' => exact andThen_of_returned rfl f
  | error e => rfl

/-- How a call ends that has put a request to the server: it has written that, and nothing else; it
returns what is `Good`; it fails with the failure that the answer is; and an answer that is neither
breaks the protocol. The connection can be used further. -/
structure Settles (o : Outcome σ α) (request : Request) (answer : Bytes) (Good : α → Prop) :
    Prop where
  writes : written o.trace = [request.encode]
  returns : ∀ a, o.ending = .returned a ↔ Good a
  refuses : ∀ code, Reply.Refuses answer code →
    ∃ message, o.ending = .failed (.server ⟨code, message⟩)
  otherwise : (∀ a, ¬ Good a) → (∀ code, ¬ Reply.Refuses answer code) →
    ∃ fault, o.ending = .failed (.protocol fault)
  goesOn : o.connection.closed = false ∧ o.connection.decoder = .empty

theorem Settles.of_iff {o : Outcome σ α} {request : Request} {Good Good' : α → Prop}
    (h : Settles o request answer Good) (hSame : ∀ a, Good a ↔ Good' a) :
    Settles o request answer Good' := by
  obtain rfl : Good = Good' := funext fun a => propext (hSame a)
  exact h

variable [Transport σ] {client : Client σ}

/-- A request that is answered, and what is taken out of a success. -/
theorem settles_of_answered (h : client.connection.Answered q client.timeout answer)
    (hTarget : ' ' ∉ q.target.toList) {f : Response → Except Error α}
    (hFault : ∀ r e, Reply.Succeeds answer r → f r = .error e → ∃ fault, e = .protocol fault) :
    Settles ((client.request q.method q.target q.payload).andThen f)
      (q.numbered client.connection.nextId) answer
      fun a => ∃ r, Reply.Succeeds answer r ∧ f r = .ok a := by
  obtain ⟨hEnding, hGoesOn⟩ := Connection.sendWait_of_answered h hTarget
  rw [Client.request, Outcome.andThen_andThen hEnding]
  refine ⟨?_, ?_, ?_, ?_, hGoesOn⟩
  · show written (client.connection.sendWait ..).trace = _
    rw [Connection.written_sendWait, h.isOpen, List.contains_eq_mem, decide_eq_false hTarget]
    rfl
  · intro a
    show Ending.ofResult _ = _ ↔ _
    rw [Ending.ofResult_eq_returned_iff, bind_eq_ok_iff]
    simp only [Reply.check_eq_ok_iff]
  · intro code hRefuses
    obtain ⟨message, hCheck⟩ := Reply.check_of_refuses hRefuses
    exact ⟨message, by rw [hCheck]; rfl⟩
  · intro hBad hUnrefused
    obtain ⟨r, hSucceeds⟩ :=
      (Reply.succeeds_or_refuses answer).resolve_right (not_exists.2 hUnrefused)
    have hCheck := Reply.check_eq_ok_iff.2 hSucceeds
    cases hTaken : f r with
    | ok a => exact absurd ⟨r, hSucceeds, hTaken⟩ (hBad a)
    | error e =>
        obtain ⟨fault, rfl⟩ := hFault r e hSucceeds hTaken
        exact ⟨fault, by rw [hCheck]; exact congrArg Ending.ofResult hTaken⟩

section Requests

variable (h : client.connection.Answered q client.timeout answer) (hTarget : ' ' ∉ q.target.toList)

include h hTarget

theorem settles_item {key : String} :
    Settles ((client.request q.method q.target q.payload).andThen (·.item key))
      (q.numbered client.connection.nextId) answer fun v =>
        (key = "msg" ∧ ∃ s, Reply.IsText answer s ∧ v = .string s) ∨ Reply.Holds answer key v :=
  (settles_of_answered h hTarget fun _ _ => Reply.item_eq_error).of_iff
    fun _ => Reply.item_eq_ok_iff

theorem settles_text {key : String} :
    Settles ((client.request q.method q.target q.payload).andThen
        fun r => do Client.textItem key (← r.item key))
      (q.numbered client.connection.nextId) answer fun s =>
        (key = "msg" ∧ Reply.IsText answer s) ∨ ∃ v, Reply.Holds answer key v ∧ v.Spells s :=
  (settles_of_answered h hTarget fun _ _ => Reply.text_eq_error).of_iff
    fun _ => Reply.text_eq_ok_iff

theorem settles_unit :
    Settles ((client.request q.method q.target q.payload).andThen fun _ => .ok ())
      (q.numbered client.connection.nextId) answer fun _ =>
        (∃ s, Reply.IsText answer s) ∨ ∃ doc, Reply.Reports answer doc := by
  refine (settles_of_answered h hTarget fun _ _ _ hTaken => by cases hTaken).of_iff fun _ => ?_
  constructor
  · rintro ⟨r, ⟨s, hText⟩ | ⟨doc, hReports⟩, -⟩
    · exact Or.inl ⟨s, hText⟩
    · exact Or.inr ⟨doc, hReports⟩
  · rintro (⟨s, hText⟩ | ⟨doc, hReports⟩)
    · exact ⟨_, .text s hText, rfl⟩
    · exact ⟨_, .document doc hReports, rfl⟩

end Requests

/-- What a call to a database asks of the server. -/
def DatabaseCall.question (what : DatabaseCall) (target : String) : Question :=
  ⟨what.method, target, what.payload⟩

/-- Over an open connection that holds nothing of a frame, whatever the transport is, and for every
answer that the server gives in time: each verb writes one request and returns exactly on success. A
version is a text, or the member `msg` of a document that reports success; an id and a document are
members of such a document; and what returns nothing asks for a success of either kind. A failure is
the error of every verb, and a success without what the verb is after breaks the protocol. -/
theorem verbs_return_exactly_on_success (client : Client σ) (answer : Bytes) :
    (client.connection.Answered ⟨.get, "version", []⟩ client.timeout answer →
      Settles client.version ((⟨.get, "version", []⟩ : Question).numbered client.connection.nextId)
        answer fun s =>
          Reply.IsText answer s ∨ ∃ v, Reply.Holds answer "msg" v ∧ v.Spells s) ∧
    ∀ (db : Database) (what : DatabaseCall) (target : String),
      Target.build (what.components db.name) = .ok target →
      client.connection.Answered (what.question target) client.timeout answer →
      let request := (what.question target).numbered client.connection.nextId
      match what with
      | .insert doc => Settles (db.insert client doc) request answer fun s =>
          ∃ v, Reply.Holds answer "docid" v ∧ v.Spells s
      | .get docid => Settles (db.get client docid) request answer fun v =>
          Reply.Holds answer "doc" v
      | .schema => Settles (db.schema client) request answer fun v =>
          Reply.Holds answer "schema" v
      | .delete docid => Settles (db.delete client docid) request answer fun _ =>
          (∃ s, Reply.IsText answer s) ∨ ∃ doc, Reply.Reports answer doc
      | .setSchema newSchema => Settles (db.setSchema client newSchema) request answer fun _ =>
          (∃ s, Reply.IsText answer s) ∨ ∃ doc, Reply.Reports answer doc := by
  constructor
  · intro hAnswered
    exact (settles_text hAnswered (by decide)).of_iff fun s => by simp
  · intro db what target hBuild hAnswered
    have hTarget : ' ' ∉ (what.question target).target.toList :=
      Target.space_notMem_of_build hBuild
    have hCall : db.call client what = client.request (what.question target).method
        (what.question target).target (what.question target).payload := by
      rw [Database.call, hBuild]
      rfl
    -- nothing but the question depends on the call from here on
    generalize what.question target = q at hAnswered hTarget hCall ⊢
    cases what with
    | insert doc =>
        dsimp only
        rw [Database.insert, hCall]
        exact (settles_text hAnswered hTarget).of_iff fun s => by simp
    | get docid =>
        dsimp only
        rw [Database.get, hCall]
        exact (settles_item hAnswered hTarget).of_iff fun v => by simp
    | schema =>
        dsimp only
        rw [Database.schema, hCall]
        exact (settles_item hAnswered hTarget).of_iff fun v => by simp
    | delete docid =>
        dsimp only
        rw [Database.delete, hCall]
        exact settles_unit hAnswered hTarget
    | setSchema newSchema =>
        dsimp only
        rw [Database.setSchema, hCall]
        exact settles_unit hAnswered hTarget

end Verbs

/-- A success with an id that is a number. -/
def numberedId : Bytes :=
  Utf8.encode "J\x7b\"docid\":7,\"msg\":\"1.4\",\"ok\":1\x7d"

/-- The members of an object of an integer, a text and an integer. Unlike values they can be
compared. -/
def Json.Value.members? : Json.Value → Option ((String × Int) × (String × String) × (String × Int))
  | .object [(a, .number (.int m)), (b, .string s), (c, .number (.int n))] =>
    some ((a, m), (b, s), (c, n))
  | _ => none

theorem parse_numberedId : Json.parse numberedId.tail = .ok (.object
    [("docid", .number (.int 7)), ("msg", .string "1.4"), ("ok", .number (.int 1))]) := by
  have hMembers : (Json.parse numberedId.tail).toOption.bind Json.Value.members? =
      some (("docid", 7), ("msg", "1.4"), ("ok", 1)) := by decide +kernel
  cases hParse : Json.parse numberedId.tail with
  | error fault =>
      rw [hParse] at hMembers
      cases hMembers
  | ok doc =>
      rw [hParse, Except.toOption, Option.bind_some] at hMembers
      unfold Json.Value.members? at hMembers
      split at hMembers <;> cases hMembers
      rfl

/-- A client whose server answers with that, in two pieces. -/
def inTwoPieces : Client Script :=
  let frame := Reply.encode "0" numberedId
  .ofConnection (.ofTransport { reads := [.ok (frame.take 5), .ok (frame.drop 5)] })

theorem inTwoPieces_answered (q : Question) :
    inTwoPieces.connection.Answered q inTwoPieces.timeout numberedId := by
  have hFirst : Decimal.text 0 = "0" := by decide +kernel
  have hBefore : Instant.passed (some ⟨Instant.simulatedStart.nanos + 30000000000⟩)
      Instant.simulatedStart = false := by decide
  let frame := Reply.encode "0" numberedId
  refine ⟨rfl, rfl, rfl, by decide +kernel, [frame.take 5, frame.drop 5], ?_, ?_, ?_⟩
  · show _ = Reply.encode (Decimal.text 0) numberedId
    rw [hFirst]
    simp [frame]
  · show 2 < 2 + _ + 2
    omega
  · exact .piece false _ _ _ _ _ (.unlimited _) rfl
      (.piece true _ _ _ _ _ (.before hBefore) rfl (.nothing true _))

/-- The number of the document is its id, and the message is the version. -/
theorem verbs_return_exactly_on_success_inTwoPieces :
    let o := (⟨"x"⟩ : Database).insert inTwoPieces .null
    (inTwoPieces.version.ending = .returned "1.4" ∧
      written inTwoPieces.version.trace = [Request.encode ⟨"0", .get, "version", []⟩]) ∧
    o.ending = .returned "7" ∧
      written o.trace = [Request.encode ⟨"0", .put, "db/x/docs", Utf8.encode "null"⟩] := by
  intro o
  let doc : Json.Value :=
    .object [("docid", .number (.int 7)), ("msg", .string "1.4"), ("ok", .number (.int 1))]
  have hReports : Reply.Reports numberedId doc :=
    ⟨numberedId.tail, by rfl, parse_numberedId, by rfl⟩
  obtain ⟨hVersion, hVerbs⟩ := verbs_return_exactly_on_success inTwoPieces numberedId
  have hBuild : Target.build ((DatabaseCall.insert .null).components "x") = .ok "db/x/docs" := by
    decide +kernel
  have hAsked := hVersion (inTwoPieces_answered _)
  have hInserted : Settles o _ _ _ := hVerbs ⟨"x"⟩ (.insert .null) _ hBuild (inTwoPieces_answered _)
  refine ⟨⟨(hAsked.returns "1.4").2 ?_, hAsked.writes.trans ?_⟩,
    (hInserted.returns "7").2 ?_, hInserted.writes.trans ?_⟩
  · exact Or.inr ⟨.string "1.4", ⟨doc, hReports, by rfl⟩, Or.inl rfl⟩
  · decide +kernel
  · exact ⟨.number (.int 7), ⟨doc, hReports, by rfl⟩, Or.inr ⟨_, rfl, by decide +kernel⟩⟩
  · decide +kernel

end DocWire
