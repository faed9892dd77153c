import Roster.Api.Server
import Roster.Proofs.Text.Pieces

namespace Roster.Api

open Http (Headers Method)

theorem Verb.ofMethod?_eq_put {m : Method} (h : ofMethod? m = some .put) : m.name = "PUT" := by
  unfold ofMethod? at h
  split at h <;> first | assumption | cases h

theorem Resource.ofSegments?_eq_profile {segments : List String}
    (h : ofSegments? segments = some .profile) : segments = ["profile", "self"] := by
  unfold ofSegments? at h
  split at h <;> first
    | rfl
    | cases h
    | simp at h

theorem Resource.ofPath?_eq_profile {path : String} (h : ofPath? path = some .profile) :
    path = "/profile/self" := by
  unfold ofPath? at h
  split at h
  · next segments hsplit =>
    have hsegments : segments = ["profile".toList, "self".toList] := by
      have h := congrArg (List.map String.toList) (ofSegments?_eq_profile h)
      rwa [List.map_map, Function.comp_def, funext fun l ↦ String.toList_ofList, List.map_id'] at h
    have hpath := Text.intercalate_splitAll '/' path.toList
    rw [hsplit, hsegments] at hpath
    exact String.toList_inj.mp (hpath.symm.trans (by decide))
  · cases h

/-- An identifier that is added to a request does not touch its credentials. -/
theorem get?_identify (id : String) (headers : Headers) :
    (RequestLog.identify id headers).get? "authorization" = headers.get? "authorization" := by
  unfold RequestLog.identify
  split
  · rfl
  · have hname : (RequestLog.idField == "authorization") = false := by decide
    rw [Headers.get?, List.find?_append, List.find?_singleton, hname, if_neg Bool.false_ne_true,
      Option.or_none]
    rfl

theorem Credentials.ofHeaders_congr {headers headers' : Headers}
    (h : headers'.get? "authorization" = headers.get? "authorization") :
    ofHeaders headers' = ofHeaders headers := by
  rw [ofHeaders, h]
  rfl

theorem Credentials.ofHeaders_identify (id : String) (headers : Headers) :
    ofHeaders (RequestLog.identify id headers) = ofHeaders headers :=
  ofHeaders_congr (get?_identify id headers)

end Roster.Api
