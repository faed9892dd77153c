import Roster.Encoding.Bytes

namespace Roster.Bytes

theorem toList_loop_eq (bytes : ByteArray) (i : Nat) (read : List UInt8) :
    ByteArray.toList.loop bytes i read = read.reverse ++ bytes.data.toList.drop i := by
  fun_induction ByteArray.toList.loop bytes i read with
  | case1 i read h ih =>
    have hi : i < bytes.data.toList.length := by simpa using h
    have hget : bytes.get! i = bytes.data.toList[i] := by
      show bytes.data[i]! = _
      rw [getElem!_pos bytes.data i (by simpa using hi), Array.getElem_toList]
    rw [ih, List.drop_eq_getElem_cons hi, List.reverse_cons, List.append_assoc, hget]
    rfl
  | case2 i read h =>
    have hi : bytes.data.toList.length ≤ i := by simpa using h
    rw [List.drop_of_length_le hi, List.append_nil]

theorem toList_eq (bytes : ByteArray) : bytes.toList = bytes.data.toList :=
  toList_loop_eq bytes 0 []

def ofChars (cs : List Char) : Bytes :=
  cs.flatMap String.utf8EncodeChar

@[simp] theorem ofChars_nil : ofChars [] = [] := rfl

@[simp] theorem ofChars_cons (c : Char) (cs : List Char) :
    ofChars (c :: cs) = String.utf8EncodeChar c ++ ofChars cs := rfl

@[simp] theorem ofChars_append (cs cs' : List Char) :
    ofChars (cs ++ cs') = ofChars cs ++ ofChars cs' :=
  List.flatMap_append

theorem utf8EncodeChar_of_lt {c : Char} (hc : c.toNat < 128) :
    String.utf8EncodeChar c = [UInt8.ofNat c.toNat] := by
  have hv : c.val.toNat ≤ 127 := Nat.le_of_lt_succ hc
  rw [String.utf8EncodeChar]
  simp only [hv, if_true]
  rfl

theorem le_of_mem_utf8EncodeChar {c : Char} (hc : 128 ≤ c.toNat) :
    ∀ b ∈ String.utf8EncodeChar c, 128 ≤ b := by
  have hv : ¬ c.val.toNat ≤ 127 := Nat.not_le.mpr hc
  have hhigh (n m : Nat) (hm : 128 ≤ m) (hn : n + m < 256) : 128 ≤ UInt8.ofNat (n + m) := by
    rw [UInt8.le_iff_toNat_le, UInt8.toNat_ofNat', Nat.mod_eq_of_lt hn]
    exact Nat.le_trans hm (Nat.le_add_left m n)
  intro b hb
  simp only [String.utf8EncodeChar, hv, if_false] at hb
  split at hb
  · simp only [List.mem_cons, List.not_mem_nil, or_false] at hb
    rcases hb with rfl | rfl <;> exact hhigh _ _ (by omega) (by omega)
  · split at hb
    · simp only [List.mem_cons, List.not_mem_nil, or_false] at hb
      rcases hb with rfl | rfl | rfl <;> exact hhigh _ _ (by omega) (by omega)
    · simp only [List.mem_cons, List.not_mem_nil, or_false] at hb
      rcases hb with rfl | rfl | rfl | rfl <;> exact hhigh _ _ (by omega) (by omega)

theorem utf8Encode_eq (cs : List Char) : cs.utf8Encode = ⟨(ofChars cs).toArray⟩ := by
  rw [List.utf8Encode]
  exact ByteArray.ext List.data_toByteArray

theorem ofText_ofList (cs : List Char) : ofText (String.ofList cs) = ofChars cs := by
  rw [ofText, toList_eq, String.toUTF8_eq_toByteArray, String.toByteArray_ofList, utf8Encode_eq]

theorem ofText_eq (s : String) : ofText s = ofChars s.toList := by
  rw [← ofText_ofList, String.ofList_toList]

theorem ofChars_of_ascii {cs : List Char} (hcs : ∀ c ∈ cs, c.toNat < 128) :
    ofChars cs = cs.map fun c ↦ UInt8.ofNat c.toNat := by
  induction cs with
  | nil => rfl
  | cons c cs ih =>
    obtain ⟨hc, hcs⟩ := List.forall_mem_cons.mp hcs
    rw [ofChars_cons, utf8EncodeChar_of_lt hc, ih hcs, List.map_cons]
    rfl

theorem ofNat_toNat_toNat (b : UInt8) : (Char.ofNat b.toNat).toNat = b.toNat := by
  have hvalid : b.toNat.isValidChar := .inl (Nat.lt_trans b.toNat_lt (by decide))
  rw [Char.ofNat, dif_pos hvalid]
  rfl

theorem ofText_of_ascii {bytes : Bytes} (hbytes : ∀ b ∈ bytes, b.toNat < 128) :
    ofText (String.ofList (bytes.map fun b ↦ Char.ofNat b.toNat)) = bytes := by
  rw [ofText_ofList, ofChars_of_ascii, List.map_map]
  · refine (List.map_congr_left fun b _ ↦ ?_).trans bytes.map_id
    rw [Function.comp_apply, ofNat_toNat_toNat, UInt8.ofNat_toNat]
    rfl
  · rw [List.forall_mem_map]
    exact fun b hb ↦ (ofNat_toNat_toNat b).symm ▸ hbytes b hb

theorem map_ofText_of_ascii {s : String} (hs : ∀ c ∈ s.toList, c.toNat < 128) :
    (ofText s).map (fun b ↦ Char.ofNat b.toNat) = s.toList := by
  rw [ofText_eq, ofChars_of_ascii hs, List.map_map]
  refine (List.map_congr_left fun c hc ↦ ?_).trans s.toList.map_id
  have hlt := hs c hc
  rw [Function.comp_apply, UInt8.toNat_ofNat', Nat.mod_eq_of_lt (by omega), Char.ofNat_toNat]
  rfl

theorem toText?_ofText (s : String) : toText? (ofText s) = some s := by
  rw [toText?, ofText, toList_eq, String.toUTF8_eq_toByteArray, String.fromUTF8?]
  rw [dif_pos s.isValidUTF8]
  rfl

theorem ofText_of_toText? {bytes : Bytes} {s : String} (h : toText? bytes = some s) :
    ofText s = bytes := by
  rw [toText?, String.fromUTF8?] at h
  split at h
  · cases h
    rw [ofText, toList_eq, String.toUTF8_eq_toByteArray]
    exact List.toList_toArray
  · cases h

theorem utf8ByteSize_cons (c : Char) (cs : List Char) :
    (String.ofList (c :: cs)).utf8ByteSize = c.utf8Size + (String.ofList cs).utf8ByteSize := by
  rw [String.ofList_cons, String.utf8ByteSize_append, String.utf8ByteSize_singleton]

theorem utf8ByteSize_bounds (cs : List Char) : cs.length ≤ (String.ofList cs).utf8ByteSize ∧
    (String.ofList cs).utf8ByteSize ≤ 4 * cs.length := by
  induction cs with
  | nil => simp
  | cons c cs ih =>
    have hleast := c.utf8Size_pos
    have hmost := c.utf8Size_le_four
    rw [utf8ByteSize_cons, List.length_cons]
    omega

end Roster.Bytes
