import Roster.Api.Server
import Roster.Proofs.Dialogue.Calls

namespace Roster.Api.RequestLog

open Http (Header Headers Request)

variable {a b : Headers} {r r' : Request} {name : String}

def carriers : List String :=
  ["authorization", "proxy-authorization", "cookie", "set-cookie", "x-auth-token"]

/-- Fields in the same order, but for the values of credentials and for what is not logged. -/
inductive Alike : Headers → Headers → Prop
  | nil : Alike [] []
  | same (h : Header) {a b : Headers} : Alike a b → Alike (h :: a) (h :: b)
  | credential {name : String} (hname : name ∈ carriers) (value value' : Bytes) {a b : Headers} :
      Alike a b → Alike (⟨name, value⟩ :: a) (⟨name, value'⟩ :: b)
  | onlyLeft {h : Header} (hname : h.name ∉ logged) {a b : Headers} : Alike a b → Alike (h :: a) b
  | onlyRight {h : Header} (hname : h.name ∉ logged) {a b : Headers} : Alike a b → Alike a (h :: b)

theorem Alike.refl (a : Headers) : Alike a a := by
  induction a with
  | nil => exact .nil
  | cons h a ih => exact ih.same h

theorem Alike.append (hab : Alike a b) (c : Headers) : Alike (a ++ c) (b ++ c) := by
  induction hab with
  | nil => exact .refl c
  | same h _ ih => exact ih.same h
  | credential hname value value' _ ih => exact ih.credential hname value value'
  | onlyLeft hname _ ih => exact ih.onlyLeft hname
  | onlyRight hname _ ih => exact ih.onlyRight hname

theorem valueText_of_carrier (hname : name ∈ carriers) (value : Bytes) :
    valueText ⟨name, value⟩ = "[REDACTED]" := by
  have hsecret : ∀ n ∈ carriers, secret.contains n = true := by decide
  rw [valueText, if_pos (hsecret name hname)]

theorem Alike.headersText_eq (hab : Alike a b) : headersText b = headersText a := by
  have hshown : (b.filter fun h ↦ logged.contains h.name).map (fun h ↦ h.name ++ "=" ++ valueText h) =
      (a.filter fun h ↦ logged.contains h.name).map fun h ↦ h.name ++ "=" ++ valueText h := by
    induction hab with
    | nil => rfl
    | same h _ ih =>
      simp only [List.filter_cons]
      split
      · simp only [List.map_cons, ih]
      · exact ih
    | credential hname value value' _ ih =>
      simp only [List.filter_cons]
      split
      · simp only [List.map_cons, ih, valueText_of_carrier hname]
      · exact ih
    | onlyLeft hname _ ih =>
      rw [List.filter_cons_of_neg (by simpa using hname)]
      exact ih
    | onlyRight hname _ ih =>
      rw [List.filter_cons_of_neg (by simpa using hname)]
      exact ih
  rw [headersText, hshown, headersText]

theorem Alike.get?_idField (hab : Alike a b) : b.get? idField = a.get? idField := by
  have hcarrier : idField ∉ carriers := by decide
  have hlogged : idField ∈ logged := by decide
  unfold Headers.get?
  induction hab with
  | nil => rfl
  | same h _ ih => simp only [List.find?_cons, ih]
  | @credential name hname value value' a b _ ih =>
    have hne : (name == idField) = false := beq_false_of_ne fun heq ↦ hcarrier (heq ▸ hname)
    simp only [List.find?_cons, hne, ih]
  | @onlyLeft h hname a b _ ih =>
    have hne : (h.name == idField) = false := beq_false_of_ne fun heq ↦ hname (heq ▸ hlogged)
    simp only [List.find?_cons, hne, ih]
  | @onlyRight h hname a b _ ih =>
    have hne : (h.name == idField) = false := beq_false_of_ne fun heq ↦ hname (heq ▸ hlogged)
    simp only [List.find?_cons, hne, ih]

theorem Alike.identify (hab : Alike a b) (id : String) :
    Alike (identify id a) (identify id b) := by
  unfold RequestLog.identify
  rw [hab.get?_idField]
  split
  · exact hab
  · exact hab.append _

theorem Alike.incoming_eq (hmethod : r'.method = r.method) (hheaders : Alike r.headers r'.headers)
    (path : String) : incoming path r' = incoming path r := by
  simp only [incoming, idText, hmethod, hheaders.headersText_eq, hheaders.get?_idField]

theorem exchange_logs_incoming (s : Service) (counted : Option Metrics.Registry) (f : Fresh)
    (newId : String) (r : Request) : (s.exchange counted f newId r).Asks (fun _ ↦ True) fun e ↦
      e.log.head? = some
        (incoming (patternOf r.uri.path) { r with headers := identify newId r.headers }) :=
  (Dialogue.Asks.trivial _).bind fun _ _ ↦ rfl

/-- Two requests with the same method and path, whose fields are the same in order but for the values
of credentials and for fields that are not logged, have the same text of fields and the same entry in
the log, whoever answers them and whatever the store answers. -/
theorem log_hides_credentials (hmethod : r'.method = r.method) (hpath : r'.uri.path = r.uri.path)
    (hheaders : Alike r.headers r'.headers) :
    headersText r'.headers = headersText r.headers ∧
    (∀ path, incoming path r' = incoming path r) ∧
    ∀ newId, ∃ entry, ∀ (s : Service) counted f,
      (s.exchange counted f newId r).Asks (fun _ ↦ True) (fun e ↦ e.log.head? = some entry) ∧
      (s.exchange counted f newId r').Asks (fun _ ↦ True) (fun e ↦ e.log.head? = some entry) := by
  refine ⟨hheaders.headersText_eq, hheaders.incoming_eq hmethod, ?_⟩
  intro newId
  refine ⟨incoming (patternOf r.uri.path) { r with headers := identify newId r.headers }, ?_⟩
  intro s counted f
  refine ⟨exchange_logs_incoming s counted f newId r, ?_⟩
  have hlogged := exchange_logs_incoming s counted f newId r'
  have hentry : incoming (patternOf r'.uri.path) { r' with headers := identify newId r'.headers } =
      incoming (patternOf r.uri.path) { r with headers := identify newId r.headers } := by
    rw [hpath]
    apply Alike.incoming_eq
    · exact hmethod
    · exact hheaders.identify newId
  rwa [hentry] at hlogged

theorem log_hides_credentials_of_two_requests :
    let fields (token cookie : Bytes) : Headers :=
      [⟨"authorization", token⟩, ⟨"authorization", cookie⟩, ⟨"x-auth-token", token⟩,
        ⟨"user-agent", Bytes.ofText "curl/8.0"⟩, ⟨"cookie", cookie⟩, ⟨"accept", [255]⟩]
    let r : Request := ⟨⟨"GET"⟩, ⟨"/users/1", none⟩, fields (Bytes.ofText "Bearer a") [255], []⟩
    let r' : Request := ⟨⟨"GET"⟩, ⟨"/users/1", some "limit=1"⟩,
      ⟨"etag", [49]⟩ :: fields [] (Bytes.ofText "session=b"), [1]⟩
    r'.method = r.method ∧ r'.uri.path = r.uri.path ∧ Alike r.headers r'.headers ∧
      headersText r'.headers = headersText r.headers ∧
      (incoming "/users/\x7bid\x7d" r').headers = some ("authorization=[REDACTED], " ++
        "authorization=[REDACTED], user-agent=curl/8.0, cookie=[REDACTED], accept=[invalid]") := by
  intro fields r r'
  have hheaders : Alike r.headers r'.headers := by
    apply Alike.onlyRight (by decide)
    apply Alike.credential (by decide)
    apply Alike.credential (by decide)
    apply Alike.credential (by decide)
    apply Alike.same
    apply Alike.credential (by decide)
    exact .refl _
  have hmethod : r'.method = r.method := rfl
  have hpath : r'.uri.path = r.uri.path := rfl
  obtain ⟨htext, hentry, -⟩ := log_hides_credentials hmethod hpath hheaders
  refine ⟨hmethod, hpath, hheaders, htext, ?_⟩
  rw [hentry]
  decide +kernel

end Roster.Api.RequestLog
