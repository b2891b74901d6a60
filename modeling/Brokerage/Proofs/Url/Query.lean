import Brokerage.Proofs.Text.Parts
import Brokerage.Proofs.Url.Segment
import Brokerage.Url.Basic

/-!
# Pairs in a query

The names and values of a query are written so that each character is read back, and so that none is
taken for a delimiter: what is escaped are all bytes but those of a few characters that delimit
nothing, and a space is a plus sign (`decode_written`, `not_mem_written`). So pairs are read as
they were written (`read_write`). A name and a value that are escaped as one escapes segments of a
path are read as well, although a plus sign is no plus sign in a query (`read_components`).

An ampersand divides a query wherever it stands, so pairs that are added to the query of a URL come
behind those that it has, whatever these are (`pairs_addPairs`).
-/

namespace Brokerage

theorem Text.encode_append (s t : String) : encode (s ++ t) = encode s ++ encode t := by
  rw [encode_eq_flatMap, encode_eq_flatMap, encode_eq_flatMap, String.toList_append,
    List.flatMap_append]

namespace Form

variable {name value : String} {pair : Pair} {pairs : List Pair} {b : UInt8}

/-! ### Names and values -/

/-- A plus sign stands for a space. -/
def unplus (b : UInt8) : UInt8 := if b = 0x2B then 0x20 else b

/-- The bytes of a name or a value as it is written. -/
def written (s : String) : Bytes := (encode s).flatMap String.utf8EncodeChar

theorem written_eq (s : String) : written s =
    (Text.encode s).flatMap fun b => (encodeByte b).flatMap String.utf8EncodeChar := by
  rw [written, encode, List.flatMap_assoc]

/-- What is written for a byte is read as the byte. -/
theorem decodeBytes_encodeByte (b : UInt8) (rest : Bytes) :
    Percent.decodeBytes (((encodeByte b).flatMap String.utf8EncodeChar).map unplus ++ rest) =
      b :: Percent.decodeBytes rest := by
  -- a byte is written as itself, as a plus sign for a space, or as an escape
  have bytes : ∀ b, ((encodeByte b).flatMap String.utf8EncodeChar).map unplus =
      if b = 0x20 ∨ inPair b = false then [b]
      else [0x25, UInt8.ofNat (Percent.hexDigit (b.toNat / 16)).toNat,
        UInt8.ofNat (Percent.hexDigit (b.toNat % 16)).toNat] :=
    Text.forall_byte (by decide +kernel)
  rw [bytes b]
  split
  · next plain =>
    have noSign : b ≠ 0x25 := by
      rintro rfl
      exact absurd plain (by decide)
    exact Percent.decodeBytes_of_ne noSign rest
  · exact Percent.decodeBytes_escape b rest

/-- **What is written for a name or a value is read as the name or the value.** -/
theorem decode_written (s : String) : decode (written s) = s := by
  have read (bs : Bytes) : Percent.decodeBytes
      ((bs.flatMap fun b => (encodeByte b).flatMap String.utf8EncodeChar).map unplus) = bs := by
    induction bs with
    | nil => rw [List.flatMap_nil, List.map_nil, Percent.decodeBytes]
    | cons b bs ih => rw [List.flatMap_cons, List.map_append, decodeBytes_encodeByte, ih]
  show Text.decodeLossy (Percent.decodeBytes ((written s).map unplus)) = s
  rw [written_eq, read, Text.decodeLossy, Text.encode_eq_flatMap, Text.decodeLossyChars_flatMap,
    String.ofList_toList]

/-- **No delimiter is written for it.** -/
theorem not_mem_written (s : String) : (0x26 : UInt8) ∉ written s ∧ (0x3D : UInt8) ∉ written s := by
  have bytes : ∀ b, (0x26 : UInt8) ∉ (encodeByte b).flatMap String.utf8EncodeChar ∧
      (0x3D : UInt8) ∉ (encodeByte b).flatMap String.utf8EncodeChar :=
    Text.forall_byte (by decide +kernel)
  rw [written_eq]
  constructor
  · intro there
    obtain ⟨b, -, inside⟩ := List.mem_flatMap.mp there
    exact (bytes b).1 inside
  · intro there
    obtain ⟨b, -, inside⟩ := List.mem_flatMap.mp there
    exact (bytes b).2 inside

/-! ### Pairs -/

/-- The bytes of a pair as it is written. -/
def writtenPair (pair : Pair) : Bytes := written pair.1 ++ 0x3D :: written pair.2

/-- The bytes of written pairs: those of the first one, and those of the others
behind an ampersand. -/
theorem encode_write_cons (pair next : Pair) (rest : List Pair) :
    Text.encode (write (pair :: next :: rest)) =
      writtenPair pair ++ 0x26 :: Text.encode (write (next :: rest)) := by
  simp only [write, Text.encode_ofList, writeChars, List.flatMap_append, List.flatMap_cons,
    writtenPair, written, List.append_assoc, List.cons_append]
  rfl

theorem encode_write_singleton (pair : Pair) : Text.encode (write [pair]) = writtenPair pair := by
  simp only [write, Text.encode_ofList, writeChars, List.flatMap_append, List.flatMap_cons,
    writtenPair, written]
  rfl

/-- The pairs of a part of a query, cut at ampersands. -/
def readBytes (bs : Bytes) : List Pair :=
  ((bs.splitOn 0x26).filter (fun part => !part.isEmpty)).map readPair

/-- **An ampersand divides a query.** -/
theorem readBytes_append_ampersand (front back : Bytes) :
    readBytes (front ++ 0x26 :: back) = readBytes front ++ readBytes back := by
  rw [readBytes, List.splitOn_append_cons_self, List.filter_append, List.map_append, readBytes,
    readBytes]

/-- **A part with a sign in it is one pair**: a name and a value around the first sign. -/
theorem readBytes_part {front back : Bytes} (whole : (0x26 : UInt8) ∉ front ∧ (0x26 : UInt8) ∉ back)
    (named : (0x3D : UInt8) ∉ front) :
    readBytes (front ++ 0x3D :: back) = [(decode front, decode back)] := by
  have noAmpersand : (0x26 : UInt8) ∉ front ++ 0x3D :: back := by
    rw [List.mem_append, List.mem_cons, not_or, not_or]
    exact ⟨whole.1, by decide, whole.2⟩
  -- there is a sign in it even if name and value are empty, so it is not skipped
  have kept : [front ++ 0x3D :: back].filter (fun part => !part.isEmpty) =
      [front ++ 0x3D :: back] := by
    rw [List.filter_eq_self, List.forall_mem_singleton]
    cases front <;> rfl
  rw [readBytes, List.splitOn_eq_singleton noAmpersand, kept, List.map_singleton, readPair,
    Text.cut_append_cons named]
  rfl

theorem readBytes_writtenPair (pair : Pair) : readBytes (writtenPair pair) = [pair] := by
  rw [writtenPair, readBytes_part ⟨(not_mem_written pair.1).1, (not_mem_written pair.2).1⟩
    (not_mem_written pair.1).2, decode_written, decode_written]

/-- **Pairs are read as they were written.** -/
theorem read_write (pairs : List Pair) : read (write pairs) = pairs := by
  show readBytes (Text.encode (write pairs)) = pairs
  induction pairs with
  | nil => rfl
  | cons pair rest ih =>
    -- an ampersand stands behind the first pair only if there is another one
    cases rest with
    | nil => rw [encode_write_singleton, readBytes_writtenPair]
    | cons next rest =>
      rw [encode_write_cons, readBytes_append_ampersand, readBytes_writtenPair, ih,
        List.singleton_append]

/-- **Pairs behind a query are read behind the pairs of the query**, whatever text it is. -/
theorem read_append_write (query : String) (pairs : List Pair) :
    read (query ++ "&" ++ write pairs) = read query ++ pairs := by
  have ampersand : Text.encode "&" = [0x26] := by decide
  show readBytes (Text.encode _) = readBytes _ ++ pairs
  rw [Text.encode_append, Text.encode_append, ampersand, List.append_assoc, List.singleton_append,
    readBytes_append_ampersand]
  congr 1
  exact read_write pairs

/-! ### Components as names and values -/

open Percent (component plainChars isPlain_component)

/-- No other byte of ASCII is in a component. -/
theorem not_mem_component (ascii : b < 0x80) (other : ∀ c ∈ plainChars, c.toNat ≠ b.toNat)
    (s : String) : b ∉ Text.encode (component s) := by
  rw [Text.mem_encode_iff _ ascii]
  rintro ⟨c, there, same⟩
  exact other c (isPlain_component s c there) same

/-- **A component is read as the text that it was written for**, also where a plus sign stands for a
space: there is none in it. -/
theorem decode_component (s : String) : decode (Text.encode (component s)) = s := by
  have noPlus := not_mem_component (b := 0x2B) (by decide)
    (Percent.forall_of_all (by decide)) s
  have kept : (Text.encode (component s)).map unplus = Text.encode (component s) := by
    refine (List.map_congr_left fun b there => ?_).trans (List.map_id _)
    have other : b ≠ 0x2B := fun plus => noPlus (plus ▸ there)
    exact if_neg other
  show Text.decodeLossy (Percent.decodeBytes ((Text.encode (component s)).map unplus)) = s
  rw [kept, ← Percent.decode, Percent.decode_component, Text.decodeLossy, Text.encode_eq_flatMap,
    Text.decodeLossyChars_flatMap, String.ofList_toList]

/-- **Two components with a sign between them are one pair.** -/
theorem read_components (name value : String) :
    read (component name ++ "=" ++ component value) = [(name, value)] := by
  have sign : Text.encode "=" = [0x3D] := by decide
  have noAmpersand := not_mem_component (b := 0x26) (by decide)
    (Percent.forall_of_all (by decide))
  have noSign := not_mem_component (b := 0x3D) (by decide)
    (Percent.forall_of_all (by decide))
  show readBytes (Text.encode _) = _
  rw [Text.encode_append, Text.encode_append, sign, List.append_assoc, List.singleton_append,
    readBytes_part ⟨noAmpersand name, noAmpersand value⟩ (noSign name), decode_component,
    decode_component]

end Form

namespace Url

/-- Nothing but the query is another one when pairs are added. -/
theorem addPairs_eq (url : Url) (pairs : List Form.Pair) :
    url.addPairs pairs = { url with query := (url.addPairs pairs).query } := by
  rw [addPairs]
  split <;> rfl

/-- **Pairs that are added to a URL come behind its own.** -/
theorem pairs_addPairs (url : Url) (pairs : List Form.Pair) :
    (url.addPairs pairs).pairs = url.pairs ++ pairs := by
  rw [addPairs]
  split
  · next empty => rw [empty, List.append_nil]
  · show Form.read (extendQuery url.query pairs) = Form.read (url.query.getD "") ++ pairs
    cases url.query with
    | none => exact Form.read_write pairs
    | some query =>
      rw [extendQuery]
      split
      · next empty =>
        rw [empty]
        exact Form.read_write pairs
      · exact Form.read_append_write query pairs

end Url

end Brokerage
