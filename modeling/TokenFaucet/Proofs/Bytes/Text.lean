import TokenFaucet.Bytes.Base58

set_option autoImplicit false

namespace TokenFaucet.Bytes

theorem toList_loop (bs : ByteArray) (i : Nat) (acc : List UInt8) :
    ByteArray.toList.loop bs i acc = acc.reverse ++ bs.data.toList.drop i := by
  fun_induction ByteArray.toList.loop bs i acc with
  | case1 i acc inside ih =>
      have size : i < bs.data.toList.length := by
        simpa [← ByteArray.size_data] using inside
      have byte : bs.get! i = bs.data.toList[i] := by
        change bs.data[i]! = _
        rw [getElem!_pos bs.data i (by simpa using size), Array.getElem_toList]
      rw [ih, List.drop_eq_getElem_cons size, byte, List.reverse_cons, List.append_assoc]
      rfl
  | case2 i acc outside =>
      have size : bs.data.toList.length ≤ i := by
        simpa [← ByteArray.size_data] using outside
      rw [List.drop_eq_nil_of_le size, List.append_nil]

theorem ofString_eq (s : String) : ofString s = s.toByteArray.data.toList := by
  change ByteArray.toList.loop s.toByteArray 0 [] = _
  rw [toList_loop]
  rfl

theorem length_ofString (s : String) : (ofString s).length = s.utf8ByteSize := by
  rw [ofString_eq, Array.length_toList]
  rfl

theorem ofString_injective {s s' : String} (same : ofString s = ofString s') : s = s' := by
  rw [ofString_eq, ofString_eq] at same
  apply String.toByteArray_inj.1
  apply ByteArray.ext
  exact Array.toList_inj.1 same

theorem ofString_append (s s' : String) : ofString (s ++ s') = ofString s ++ ofString s' := by
  rw [ofString_eq, ofString_eq, ofString_eq, String.toByteArray_append, ByteArray.toList_data_append]

theorem ofString_ofList (cs : List Char) :
    ofString (String.ofList cs) = cs.flatMap String.utf8EncodeChar := by
  rw [ofString_eq, String.toByteArray_ofList, List.utf8Encode, List.toList_data_toByteArray]

theorem ofString_eq_flatMap (s : String) : ofString s = s.toList.flatMap String.utf8EncodeChar := by
  rw [← ofString_ofList, String.ofList_toList]

theorem utf8EncodeChar_ascii {c : Char} (ascii : c.toNat < 128) :
    String.utf8EncodeChar c = [UInt8.ofNat c.toNat] := by
  have size : c.utf8Size = 1 := by
    rw [Char.utf8Size_eq_one_iff, UInt32.le_iff_toNat_le]
    exact Nat.le_of_lt_succ ascii
  rw [String.utf8EncodeChar_eq_singleton size]
  rfl

theorem high_of_mem_utf8EncodeChar {c : Char} (wide : 128 ≤ c.toNat) :
    ∀ b ∈ String.utf8EncodeChar c, 128 ≤ b.toNat := by
  have number : c.val.toNat = c.toNat := rfl
  intro b mem
  unfold String.utf8EncodeChar at mem
  simp only [number, show ¬ c.toNat ≤ 127 by omega, if_false] at mem
  split at mem
  · simp only [List.mem_cons, List.not_mem_nil, or_false] at mem
    rcases mem with rfl | rfl <;> simp only [UInt8.toNat_ofNat'] <;> omega
  · split at mem
    · simp only [List.mem_cons, List.not_mem_nil, or_false] at mem
      rcases mem with rfl | rfl | rfl <;> simp only [UInt8.toNat_ofNat'] <;> omega
    · simp only [List.mem_cons, List.not_mem_nil, or_false] at mem
      rcases mem with rfl | rfl | rfl | rfl <;> simp only [UInt8.toNat_ofNat'] <;> omega

/-- A character of ASCII is one byte, its number. -/
theorem ofString_ascii {cs : List Char} (ascii : ∀ c ∈ cs, c.toNat < 128) :
    ofString (String.ofList cs) = cs.map fun c => UInt8.ofNat c.toNat := by
  rw [ofString_ofList]
  induction cs with
  | nil => rfl
  | cons c rest ih =>
      rw [List.flatMap_cons, utf8EncodeChar_ascii (ascii c (List.mem_cons_self ..)),
        ih fun c mem => ascii c (List.mem_cons_of_mem _ mem)]
      rfl

/-- Bytes of ASCII are those of characters of ASCII. -/
theorem ascii_of_ofString {s : String} (ascii : ∀ b ∈ ofString s, b.toNat < 128) :
    ∀ c ∈ s.toList, c.toNat < 128 := by
  intro c mem
  refine Nat.not_le.1 fun wide => ?_
  obtain ⟨b, own⟩ := List.exists_mem_of_ne_nil _ (String.utf8EncodeChar_ne_nil (c := c))
  have high := high_of_mem_utf8EncodeChar wide b own
  have among : b ∈ ofString s := by
    rw [ofString_eq_flatMap]
    exact List.mem_flatMap.2 ⟨c, mem, own⟩
  exact absurd (ascii b among) (Nat.not_lt.2 high)

end TokenFaucet.Bytes
