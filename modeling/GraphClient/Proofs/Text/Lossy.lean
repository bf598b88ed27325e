import GraphClient.Text.Lossy

/-!
# Bytes that encode the text they are read as

Bytes in UTF-8 are read as the text that they encode (`lossyText_toUTF8`).  Conversely a
text without a replacement character is read from nothing else than its own UTF-8 bytes
(`lossyText_eq_iff`), since every ill-formed piece leaves such a character behind.
-/

namespace GraphClient

/-- Behind the bytes of some characters, the characters that were encoded are read. -/
theorem lossyChars_utf8Encode (before chars : List Char) :
    lossyChars (before.utf8Encode ++ chars.utf8Encode) before.utf8Encode.size = chars := by
  induction chars generalizing before with
  | nil =>
      rw [lossyChars, dif_neg]
      simp
  | cons c rest ih =>
      have hDecode :
          (before.utf8Encode ++ (c :: rest).utf8Encode).utf8DecodeChar?
            before.utf8Encode.size = some c := by
        rw [ByteArray.utf8DecodeChar?_eq_utf8DecodeChar?_extract,
          ByteArray.extract_append_eq_right rfl ByteArray.size_append,
          List.utf8DecodeChar?_utf8Encode_cons]
      have hStart := ByteArray.lt_size_of_isSome_utf8DecodeChar?
        (Option.isSome_of_eq_some hDecode)
      have hBytes :
          before.utf8Encode ++ (c :: rest).utf8Encode =
            (before ++ [c]).utf8Encode ++ rest.utf8Encode := by
        rw [List.utf8Encode_cons, List.utf8Encode_append, ByteArray.append_assoc]
      have hSize : before.utf8Encode.size + c.utf8Size = (before ++ [c]).utf8Encode.size := by
        simp [List.utf8Encode_append, List.utf8Encode_singleton]
      rw [lossyChars, dif_pos hStart, hDecode]
      dsimp only
      rw [hBytes, hSize, ih]

/-- Without a replacement character, what is read from a position on encodes the bytes there. -/
theorem utf8Encode_lossyChars
    {bytes : ByteArray}
    {start : Nat}
    (hPlain : replacement ∉ lossyChars bytes start) :
    (lossyChars bytes start).utf8Encode = bytes.extract start bytes.size := by
  fun_induction lossyChars bytes start with
  | case1 start hStart c hDecode ih =>
      have hSome : (bytes.utf8DecodeChar? start).isSome := Option.isSome_of_eq_some hDecode
      have hChar : bytes.utf8DecodeChar start hSome = c := by
        simp [ByteArray.utf8DecodeChar, hDecode]
      have hFirst := ByteArray.utf8EncodeChar_utf8DecodeChar (h := hSome)
      rw [hChar] at hFirst
      have hRest := ih fun hMem => hPlain (List.mem_cons_of_mem c hMem)
      have hSplit :
          bytes.extract start bytes.size =
            bytes.extract start (start + c.utf8Size) ++
              bytes.extract (start + c.utf8Size) bytes.size :=
        ByteArray.extract_eq_extract_append_extract (start + c.utf8Size)
          (Nat.le_add_right start c.utf8Size)
          (ByteArray.le_size_of_utf8DecodeChar?_eq_some hDecode)
      rw [List.utf8Encode_cons, List.utf8Encode_singleton, hFirst, hRest, hSplit]
  | case2 start hStart hNone ih =>
      -- An ill-formed piece stands here, so the replacement character is the first one read.
      exact absurd List.mem_cons_self hPlain
  | case3 start hEnd =>
      rw [List.utf8Encode_nil, eq_comm, ByteArray.extract_eq_empty_iff, Nat.min_self]
      exact Nat.not_lt.mp hEnd

/-- Bytes in UTF-8 are read as the text that they encode. -/
theorem lossyText_toUTF8 (text : String) : lossyText text.toUTF8 = text := by
  have hBytes : text.toUTF8 = [].utf8Encode ++ text.toList.utf8Encode := by
    rw [List.utf8Encode_nil, ByteArray.empty_append, ← String.toByteArray_ofList,
      String.ofList_toList]
    rfl
  have hChars : lossyChars text.toUTF8 0 = text.toList := by
    rw [hBytes]
    exact lossyChars_utf8Encode [] text.toList
  rw [lossyText, hChars, String.ofList_toList]

/-- A text without a replacement character is read from its own bytes alone. -/
theorem lossyText_eq_iff
    {text : String}
    (hPlain : replacement ∉ text.toList)
    (bytes : ByteArray) :
    lossyText bytes = text ↔ bytes = text.toUTF8 := by
  constructor
  · rintro rfl
    rw [lossyText, String.toList_ofList] at hPlain
    have hBytes := utf8Encode_lossyChars hPlain
    rw [ByteArray.extract_zero_size] at hBytes
    exact hBytes.symm
  · rintro rfl
    exact lossyText_toUTF8 text

end GraphClient
