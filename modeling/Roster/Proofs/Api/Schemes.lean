import Roster.Proofs.Api.Credentials
import Roster.Proofs.Encoding.Base64

namespace Roster

open Http (Headers)

namespace Api.Credentials

def Carries (scheme body : String) (value : Bytes) : Prop :=
  ∃ before after : List Char, (∀ c ∈ before ++ after, c = ' ' ∨ c = '\t') ∧
    value = Bytes.ofText (scheme ++ " " ++ String.ofList (before ++ body.toList ++ after))

def basicText (username password : String) : String :=
  Base64.text .standard (Bytes.ofText (username ++ ":" ++ password))

/-- What may stand as a token: there may be blanks within it, but not at its ends. -/
structure IsToken (token : String) : Prop where
  chars : ∀ c ∈ token.toList, IsFieldChar c
  ne_empty : token ≠ ""
  head : ∀ c ∈ token.toList.head?, IsVisible c
  last : ∀ c ∈ token.toList.getLast?, IsVisible c

variable {headers : Headers} {scheme body token username password value : String} {c : Char}

theorem IsToken.of_visible (hne : token ≠ "") (htoken : ∀ c ∈ token.toList, IsVisible c) :
    IsToken token where
  chars c hc := .inl (htoken c hc)
  ne_empty := hne
  head c hc := htoken c (List.mem_of_mem_head? hc)
  last c hc := htoken c (List.mem_of_mem_getLast? hc)

theorem isBlank_iff (hc : IsFieldChar c) : Text.isBlank c = true ↔ c = ' ' ∨ c = '\t' := by
  constructor
  · intro hblank
    refine hc.resolve_left fun hvisible ↦ ?_
    rw [hvisible.not_isBlank] at hblank
    cases hblank
  · rintro (rfl | rfl) <;> decide

theorem isVisible_iff (hc : IsFieldChar c) : IsVisible c ↔ Text.isBlank c = false := by
  refine ⟨IsVisible.not_isBlank, fun hblank ↦ hc.resolve_right fun hspace ↦ ?_⟩
  rw [(isBlank_iff hc).mpr hspace] at hblank
  cases hblank

/-- A body is carried by the fields that are read as the scheme and a text that is trimmed to it. -/
theorem carries_iff {field : Http.Header} (hscheme : ∀ c ∈ (scheme ++ " ").toList, IsFieldChar c)
    (hbody : ∀ c ∈ body.toList, IsFieldChar c)
    (hhead : ∀ c ∈ body.toList.head?, Text.isBlank c = false)
    (hlast : ∀ c ∈ body.toList.getLast?, Text.isBlank c = false) :
    Carries scheme body field.value ↔
      ∃ rest, field.text? = some (scheme ++ " " ++ rest) ∧ Text.trim rest = body := by
  constructor
  · rintro ⟨before, after, hblanks, hvalue⟩
    have hends : ∀ c ∈ before ++ after, IsFieldChar c := fun c hc ↦ .inr (hblanks c hc)
    obtain ⟨hbefore, hafter⟩ := List.forall_mem_append.mp hends
    refine ⟨_, Http.Header.text?_eq_some_iff.mpr ⟨hvalue, ?_⟩, Text.trim_eq_iff.mpr
      ⟨hhead, hlast, before, after, ?_, String.toList_ofList⟩⟩
    · rw [String.toList_append, String.toList_ofList]
      simp only [List.forall_mem_append]
      exact ⟨hscheme, ⟨hbefore, hbody⟩, hafter⟩
    · exact fun c hc ↦ (isBlank_iff (hends c hc)).mpr (hblanks c hc)
  · rintro ⟨rest, htext, htrim⟩
    obtain ⟨hvalue, hchars⟩ := Http.Header.text?_eq_some_iff.mp htext
    obtain ⟨-, -, before, after, hblanks, hrest⟩ := Text.trim_eq_iff.mp htrim
    refine ⟨before, after, fun c hc ↦ (isBlank_iff (hchars c ?_)).mp (hblanks c hc), ?_⟩
    · rw [String.toList_append, hrest, List.append_assoc]
      refine List.mem_append_right _ ?_
      rw [List.mem_append, List.mem_append]
      exact (List.mem_append.mp hc).imp_right .inr
    · rw [hvalue, ← hrest, String.ofList_toList]

theorem ofHeaders_eq_ok_iff {credentials : Credentials} : ofHeaders headers = .ok credentials ↔
    ∃ field, headers.get? "authorization" = some field ∧
      ∃ value, field.text? = some value ∧ ofValue value = .ok credentials := by
  rw [ofHeaders]
  cases headers.get? "authorization" with
  | none => simp
  | some field => cases htext : field.text? <;> simp [htext]

theorem ofValue_basic (encoded : String) :
    ofValue ("Basic " ++ encoded) = (ofBasic? encoded).elim (.error malformed) .ok := by
  have hbearer : Text.afterPrefix? "Bearer " ("Basic " ++ encoded) = none := by
    rw [Text.afterPrefix?, String.toList_append]
    rfl
  rw [ofValue, hbearer, Text.afterPrefix?_append]

theorem ofBasic?_eq_some_iff {encoded : String} {credentials : Credentials} :
    ofBasic? encoded = some credentials ↔ ∃ username password,
      credentials = .basic username password ∧ ':' ∉ username.toList ∧
        Text.trim encoded = basicText username password := by
  have hread {bytes : Bytes} : Base64.ofText? .standard (Text.trim encoded) = some bytes ↔
      Text.trim encoded = Base64.text .standard bytes := by
    rw [Base64.ofText?, Base64.decode?_eq_some_iff Base64.standard_isSound
      (fun _ ↦ Base64.standard_digit_ne_padding), Base64.text, ← String.toList_inj,
      String.toList_ofList]
  have hjoin (username password : String) : (username ++ ":" ++ password).toList =
      username.toList ++ ':' :: password.toList := by simp [String.toList_append]
  constructor
  · intro h
    simp only [ofBasic?, Option.bind_eq_bind, Option.bind_eq_some_iff] at h
    obtain ⟨bytes, hbytes, decoded, hdecoded, ⟨username, password⟩, hsplit, h⟩ := h
    cases h
    obtain ⟨colon, hcolon, hlist, husername⟩ := Text.splitFirst_eq_some hsplit
    have hdecode : decoded = String.ofList username ++ ":" ++ String.ofList password := by
      rw [← String.toList_inj, hjoin, hlist, eq_of_beq hcolon, String.toList_ofList,
        String.toList_ofList]
    refine ⟨_, _, rfl, ?_, ?_⟩
    · rw [String.toList_ofList]
      exact fun hmem ↦ Bool.false_ne_true (husername ':' hmem).symm
    · rw [hread.mp hbytes, basicText, ← hdecode, Bytes.ofText_of_toText? hdecoded]
  · rintro ⟨username, password, rfl, husername, htrim⟩
    have hsplit : Text.splitFirst (· == ':') (username ++ ":" ++ password).toList =
        some (username.toList, password.toList) := by
      rw [hjoin]
      refine Text.splitFirst_append rfl (fun c hc ↦ beq_false_of_ne ?_) password.toList
      rintro rfl
      exact husername hc
    rw [ofBasic?, hread.mpr htrim]
    simp only [Option.bind_eq_bind, Option.bind_some, Bytes.toText?_ofText, hsplit]
    rw [String.ofList_toList, String.ofList_toList]
    rfl

theorem ofValue_eq_bearer_iff : ofValue value = .ok (.bearer token) ↔
    ∃ rest, value = "Bearer " ++ rest ∧ Text.trim rest = token ∧ token ≠ "" := by
  constructor
  · intro h
    unfold ofValue at h
    split at h
    · next rest hrest =>
      split at h
      · cases h
      · next hblank =>
        cases h
        exact ⟨rest, Text.afterPrefix?_eq_some_iff.mp hrest, rfl,
          mt Text.trim_eq_empty_iff.mp hblank⟩
    · split at h
      · next encoded _ =>
        cases hbasic : ofBasic? encoded with
        | none =>
          rw [hbasic] at h
          cases h
        | some credentials =>
          obtain ⟨username, password, rfl, -⟩ := ofBasic?_eq_some_iff.mp hbasic
          rw [hbasic] at h
          cases h
      · cases h
  · rintro ⟨rest, rfl, rfl, hne⟩
    have hblank : ¬ Text.blank rest = true := mt Text.trim_eq_empty_iff.mpr hne
    rw [ofValue, Text.afterPrefix?_append]
    exact if_neg hblank

theorem ofValue_eq_basic_iff : ofValue value = .ok (.basic username password) ↔
    ∃ rest, value = "Basic " ++ rest ∧ Text.trim rest = basicText username password ∧
      ':' ∉ username.toList := by
  constructor
  · intro h
    unfold ofValue at h
    split at h
    · split at h <;> cases h
    · split at h
      · next encoded hencoded =>
        cases hbasic : ofBasic? encoded with
        | none =>
          rw [hbasic] at h
          cases h
        | some credentials =>
          rw [hbasic] at h
          cases h
          obtain ⟨_, _, hsame, husername, htrim⟩ := ofBasic?_eq_some_iff.mp hbasic
          cases hsame
          exact ⟨encoded, Text.afterPrefix?_eq_some_iff.mp hencoded, htrim, husername⟩
      · cases h
  · rintro ⟨rest, rfl, htrim, husername⟩
    have hbasic : ofBasic? rest = some (.basic username password) :=
      ofBasic?_eq_some_iff.mpr ⟨username, password, rfl, husername, htrim⟩
    rw [ofValue_basic, hbasic]
    rfl

theorem basicText_visible : ∀ c ∈ (basicText username password).toList, IsVisible c := by
  have hdigit : ∀ n < 64, IsVisible (Base64.Form.standard.digit n) := by
    unfold IsVisible
    decide
  have hpadding : IsVisible '=' := by
    unfold IsVisible
    decide
  rw [basicText, Base64.text, String.toList_ofList]
  exact Base64.forall_mem_encode hdigit (fun _ ↦ hpadding) _

theorem bearer_isFieldChar : ∀ c ∈ ("Bearer" ++ " ").toList, IsFieldChar c := by
  simp [isFieldChar_iff]

theorem basic_isFieldChar : ∀ c ∈ ("Basic" ++ " ").toList, IsFieldChar c := by
  simp [isFieldChar_iff]

theorem IsToken.carries_iff {field : Http.Header} (h : IsToken token) :
    Carries "Bearer" token field.value ↔
      ∃ rest, field.text? = some ("Bearer " ++ rest) ∧ Text.trim rest = token :=
  Credentials.carries_iff bearer_isFieldChar h.chars (fun c hc ↦ (h.head c hc).not_isBlank)
    fun c hc ↦ (h.last c hc).not_isBlank

theorem basicText_carries_iff {field : Http.Header} :
    Carries "Basic" (basicText username password) field.value ↔
      ∃ rest, field.text? = some ("Basic " ++ rest) ∧
        Text.trim rest = basicText username password :=
  have hblank {c : Char} (hc : c ∈ (basicText username password).toList) :
      Text.isBlank c = false := (basicText_visible c hc).not_isBlank
  carries_iff basic_isFieldChar (fun c hc ↦ .inl (basicText_visible c hc))
    (fun _ hc ↦ hblank (List.mem_of_mem_head? hc)) fun _ hc ↦ hblank (List.mem_of_mem_getLast? hc)

/-- What a field that is read as a text holds behind the scheme, without the blanks around it. -/
theorem isToken_trim {field : Http.Header} {rest : String}
    (htext : field.text? = some (scheme ++ rest)) (hne : Text.trim rest ≠ "") :
    IsToken (Text.trim rest) := by
  obtain ⟨-, hchars⟩ := Http.Header.text?_eq_some_iff.mp htext
  obtain ⟨hhead, hlast, before, after, -, hrest⟩ := Text.trim_eq_iff.mp (Eq.refl (Text.trim rest))
  have htoken : ∀ c ∈ (Text.trim rest).toList, IsFieldChar c := by
    intro c hc
    refine hchars c ?_
    rw [String.toList_append, hrest]
    simp [hc]
  constructor
  · exact htoken
  · exact hne
  · exact fun c hc ↦ (isVisible_iff (htoken c (List.mem_of_mem_head? hc))).mpr (hhead c hc)
  · exact fun c hc ↦ (isVisible_iff (htoken c (List.mem_of_mem_getLast? hc))).mpr (hlast c hc)

theorem ofHeaders_eq_bearer_iff : ofHeaders headers = .ok (.bearer token) ↔
    ∃ field, headers.get? "authorization" = some field ∧ IsToken token ∧
      Carries "Bearer" token field.value := by
  simp only [ofHeaders_eq_ok_iff, ofValue_eq_bearer_iff]
  constructor
  · rintro ⟨field, hfield, _, htext, rest, rfl, rfl, hne⟩
    have htoken : IsToken (Text.trim rest) := isToken_trim htext hne
    exact ⟨field, hfield, htoken, htoken.carries_iff.mpr ⟨rest, htext, rfl⟩⟩
  · rintro ⟨field, hfield, htoken, hcarries⟩
    obtain ⟨rest, htext, htrim⟩ := htoken.carries_iff.mp hcarries
    exact ⟨field, hfield, _, htext, rest, rfl, htrim, htoken.ne_empty⟩

theorem ofHeaders_eq_basic_iff : ofHeaders headers = .ok (.basic username password) ↔
    ∃ field, headers.get? "authorization" = some field ∧ ':' ∉ username.toList ∧
      Carries "Basic" (basicText username password) field.value := by
  simp only [ofHeaders_eq_ok_iff, ofValue_eq_basic_iff, basicText_carries_iff]
  constructor
  · rintro ⟨field, hfield, _, htext, rest, rfl, htrim, husername⟩
    exact ⟨field, hfield, husername, rest, htext, htrim⟩
  · rintro ⟨field, hfield, husername, rest, htext, htrim⟩
    exact ⟨field, hfield, _, htext, rest, rfl, htrim, husername⟩

/-- A visible token is read from the field that holds just the scheme and the token. -/
theorem ofHeaders_bearer
    (hfield : headers.get? "authorization" =
      some ⟨"authorization", Bytes.ofText ("Bearer " ++ token)⟩)
    (hne : token ≠ "") (htoken : ∀ c ∈ token.toList, IsVisible c) :
    ofHeaders headers = .ok (.bearer token) := by
  have hcarries : Carries "Bearer" token (Bytes.ofText ("Bearer " ++ token)) :=
    ⟨[], [], by simp, by simp⟩
  exact ofHeaders_eq_bearer_iff.mpr ⟨_, hfield, .of_visible hne htoken, hcarries⟩

/-- A name and a password are read from the fields that carry their base64 form, whatever the
characters, if the name has no colon, and a token from those that carry it. All visible texts are
tokens, and any other field is refused, as is a request without one. -/
theorem read_iff_carried (headers : Headers) :
    (∀ username password, ofHeaders headers = .ok (.basic username password) ↔
      ∃ field, headers.get? "authorization" = some field ∧ ':' ∉ username.toList ∧
        Carries "Basic" (basicText username password) field.value) ∧
    (∀ token, ofHeaders headers = .ok (.bearer token) ↔
      ∃ field, headers.get? "authorization" = some field ∧ IsToken token ∧
        Carries "Bearer" token field.value) ∧
    (∀ token : String, token ≠ "" → (∀ c ∈ token.toList, IsVisible c) → IsToken token) ∧
    ((∃ n, ofHeaders headers = .error n) ∨
      ∃ field, headers.get? "authorization" = some field ∧
        ((∃ username password, ':' ∉ username.toList ∧
            Carries "Basic" (basicText username password) field.value) ∨
          ∃ token, IsToken token ∧ Carries "Bearer" token field.value)) := by
  refine ⟨fun _ _ ↦ ofHeaders_eq_basic_iff, fun _ ↦ ofHeaders_eq_bearer_iff,
    fun _ ↦ IsToken.of_visible, ?_⟩
  cases hread : ofHeaders headers with
  | error n => exact .inl ⟨n, rfl⟩
  | ok credentials =>
    cases credentials with
    | bearer token =>
      obtain ⟨field, hfield, htoken, hcarries⟩ := ofHeaders_eq_bearer_iff.mp hread
      exact .inr ⟨field, hfield, .inr ⟨token, htoken, hcarries⟩⟩
    | basic username password =>
      obtain ⟨field, hfield, husername, hcarries⟩ := ofHeaders_eq_basic_iff.mp hread
      exact .inr ⟨field, hfield, .inl ⟨username, password, husername, hcarries⟩⟩

theorem read_iff_carried_of_colons :
    let value := Bytes.ofText "Basic  w7w6YTpi\t"
    Carries "Basic" (basicText "ü" "a:b") value ∧
      ofHeaders [⟨"authorization", value⟩] = .ok (.basic "ü" "a:b") ∧
      (∀ c ∈ "e30.~".toList, IsVisible c) ∧ IsToken "e30.~" := by
  intro value
  obtain ⟨hbasic, -, hvisible, -⟩ := read_iff_carried [⟨"authorization", value⟩]
  have htext : basicText "ü" "a:b" = "w7w6YTpi" := by decide +kernel
  have hcarries : Carries "Basic" (basicText "ü" "a:b") value := by
    rw [htext]
    exact ⟨[' '], ['\t'], by simp, by decide +kernel⟩
  have htoken : ∀ c ∈ "e30.~".toList, IsVisible c := by simp [IsVisible]
  exact ⟨hcarries, (hbasic "ü" "a:b").mpr ⟨_, rfl, by decide, hcarries⟩, htoken,
    hvisible "e30.~" (by decide) htoken⟩

theorem inner_blank_kept :
    let value := Bytes.ofText "Bearer a b"
    (∀ token : String, token ≠ "" → (∀ c ∈ token.toList, IsVisible c) →
      ¬ Carries "Bearer" token value) ∧
    (∀ username password, ':' ∉ username.toList →
      ¬ Carries "Basic" (basicText username password) value) ∧
    ofHeaders [⟨"authorization", value⟩] = .ok (.bearer "a b") := by
  intro value
  have hread : ofHeaders [⟨"authorization", value⟩] = .ok (.bearer "a b") := by decide +kernel
  refine ⟨fun token hne htoken hcarries ↦ ?_, fun username password husername hcarries ↦ ?_, hread⟩
  · have hsame := hread.symm.trans
      (ofHeaders_eq_bearer_iff.mpr ⟨_, rfl, .of_visible hne htoken, hcarries⟩)
    cases hsame
    exact absurd (htoken ' ' (by decide)).1 (by decide)
  · have hsame := hread.symm.trans (ofHeaders_eq_basic_iff.mpr ⟨_, rfl, husername, hcarries⟩)
    cases hsame

end Api.Credentials

end Roster
