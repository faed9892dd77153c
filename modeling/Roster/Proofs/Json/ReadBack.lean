import Roster.Json.Reader
import Roster.Proofs.Json.Scanning

namespace Roster.Json

open Bytes

namespace Token

variable {rest : Bytes}

theorem ofBytes_cons {b : UInt8} {tail : Bytes} {t : Token} (hspace : isSpace b = false)
    (hnext : next b tail = (t, rest)) : ofBytes (b :: tail) = t :: ofBytes rest := by
  rw [ofBytes, hspace, hnext]
  simp

theorem ofBytes_mark {b : UInt8} {t : Token} (hspace : isSpace b = false) (hmark : mark? b = some t)
    (rest : Bytes) : ofBytes (b :: rest) = t :: ofBytes rest :=
  ofBytes_cons hspace (by rw [next, hmark])

theorem ofBytes_quote (s : String) (rest : Bytes) :
    ofBytes (ofChars (quote s) ++ rest) = .string (some s) :: ofBytes rest := by
  have hchars : ofChars (quote s) ++ rest = 34 :: (ofChars (s.toList.flatMap escape) ++ 34 :: rest) := by
    simp [quote]
    rfl
  rw [hchars]
  refine ofBytes_cons rfl ?_
  rw [next, scanString_quote]
  rfl

theorem ofBytes_null (rest : Bytes) : ofBytes (ofChars "null".toList ++ rest) = .null :: ofBytes rest :=
  ofBytes_cons rfl rfl

theorem ofBytes_true (rest : Bytes) :
    ofBytes (ofChars "true".toList ++ rest) = .bool true :: ofBytes rest :=
  ofBytes_cons rfl rfl

theorem ofBytes_false (rest : Bytes) :
    ofBytes (ofChars "false".toList ++ rest) = .bool false :: ofBytes rest :=
  ofBytes_cons rfl rfl

theorem next_number {b : UInt8} {tail : Bytes} {n : Number} {size : Nat}
    (hb : (b == 45 || byteIsDigit b) = true) (hscan : scanNumber (b :: tail) = some (n, size)) :
    next b tail = (.number n, tail.drop (size - 1)) := by
  have hne (c : UInt8) (hc : (c == 45 || byteIsDigit c) = false) : b ≠ c := by
    rintro rfl
    rw [hb] at hc
    cases hc
  have hmark : mark? b = none := by
    simp only [mark?, beq_iff_eq, hne 91 rfl, hne 93 rfl, hne 123 rfl, hne 125 rfl, hne 44 rfl,
      hne 58 rfl, if_false]
  simp only [next, hmark, beq_iff_eq, hne 34 rfl, hb, hscan, if_false, if_true]

theorem ofBytes_number {bytes : Bytes} {n : Number} {b : UInt8} (hhead : bytes.head? = some b)
    (hb : (b == 45 || byteIsDigit b) = true)
    (hscan : scanNumber (bytes ++ rest) = some (n, bytes.length)) :
    ofBytes (bytes ++ rest) = .number n :: ofBytes rest := by
  obtain ⟨tail, rfl⟩ := List.head?_eq_some_iff.mp hhead
  have hspace : isSpace b = false := by
    rw [Bool.eq_false_iff]
    intro hspace
    simp only [isSpace, Bool.or_eq_true, beq_iff_eq, or_assoc] at hspace
    rcases hspace with rfl | rfl | rfl | rfl <;> cases hb
  rw [List.cons_append] at hscan ⊢
  refine ofBytes_cons hspace ?_
  rw [next_number hb hscan, List.length_cons, Nat.add_sub_cancel, List.drop_left]

theorem classify_int {n : Int} (hlow : Int64.minValue.toInt ≤ n) (hhigh : n < UInt64.size) :
    classify (decide (n < 0)) n.natAbs = .int n := by
  rw [Int64.toInt_minValue] at hlow
  unfold classify
  by_cases hn : n < 0
  · rw [decide_eq_true hn, if_pos rfl, if_neg (by simp; omega)]
    congr 1
    omega
  · rw [decide_eq_false hn, if_neg Bool.false_ne_true, if_pos (by omega)]
    congr 1
    omega

theorem ofChars_int (n : Int) :
    ofChars (toString n).toList = signBytes (decide (n < 0)) ++ decimal n.natAbs := by
  cases n with
  | ofNat m =>
    have htext : toString (Int.ofNat m) = m.repr := rfl
    rw [htext, Nat.toList_repr]
    rfl
  | negSucc m =>
    have htext : toString (Int.negSucc m) = "-" ++ (m + 1).repr := rfl
    rw [htext, String.toList_append, ofChars_append, Nat.toList_repr,
      decide_eq_true (Int.negSucc_lt_zero m)]
    rfl

theorem ofBytes_int {n : Int} (hlow : Int64.minValue.toInt ≤ n) (hhigh : n < UInt64.size)
    (hrest : Delimited rest) :
    ofBytes (ofChars (toString n).toList ++ rest) = .number (.int n) :: ofBytes rest := by
  have hscan := scanNumber_decimal (decide (n < 0)) n.natAbs hrest
  rw [← List.append_assoc, classify_int hlow hhigh] at hscan
  obtain ⟨d, digits, hdigits⟩ := List.exists_cons_of_ne_nil (decimal_ne_nil n.natAbs)
  have hd := decimal_isDigit n.natAbs d (hdigits ▸ List.mem_cons_self)
  rw [ofChars_int]
  by_cases hn : n < 0
  · rw [decide_eq_true hn] at hscan ⊢
    exact ofBytes_number rfl rfl hscan
  · rw [decide_eq_false hn] at hscan ⊢
    refine ofBytes_number (b := d) ?_ (by rw [hd, Bool.or_true]) hscan
    rw [hdigits]
    rfl

end Token

mutual

/-- Whether the compact text of a value says all about it: no number is beyond 64 bits or other than
an integer, and nothing has been left unread. -/
def isPlain : Json → Bool
  | number (.int n) => Int64.minValue.toInt ≤ n && n < UInt64.size
  | array items => arePlain items
  | object entries => arePlainEntries entries
  | number _ | garbled | broken => false
  | _ => true

def arePlain : List Json → Bool
  | [] => true
  | j :: rest => isPlain j && arePlain rest

def arePlainEntries : List (String × Json) → Bool
  | [] => true
  | (_, j) :: rest => isPlain j && arePlainEntries rest

end

mutual

def tokens : Json → List Token
  | null => [.null]
  | bool b => [.bool b]
  | number n => [.number n]
  | text s => [.string (some s)]
  | array items => .openBracket :: tokensOfItems items ++ [.closeBracket]
  | object entries => .openBrace :: tokensOfEntries entries ++ [.closeBrace]
  | garbled => [.string none]
  | broken => [.junk]

def tokensOfItems : List Json → List Token
  | [] => []
  | [j] => tokens j
  | j :: rest => tokens j ++ .comma :: tokensOfItems rest

def tokensOfEntries : List (String × Json) → List Token
  | [] => []
  | [(k, j)] => .string (some k) :: .colon :: tokens j
  | (k, j) :: rest => .string (some k) :: .colon :: (tokens j ++ .comma :: tokensOfEntries rest)

end

theorem charsOfItems_cons (j k : Json) (items : List Json) :
    charsOfItems (j :: k :: items) = j.chars ++ ',' :: charsOfItems (k :: items) := rfl

theorem tokensOfItems_cons (j k : Json) (items : List Json) :
    tokensOfItems (j :: k :: items) = j.tokens ++ .comma :: tokensOfItems (k :: items) := rfl

theorem charsOfEntries_cons (key : String) (j : Json) (e : String × Json)
    (entries : List (String × Json)) : charsOfEntries ((key, j) :: e :: entries) =
      quote key ++ ':' :: (j.chars ++ ',' :: charsOfEntries (e :: entries)) := rfl

theorem tokensOfEntries_cons (key : String) (j : Json) (e : String × Json)
    (entries : List (String × Json)) : tokensOfEntries ((key, j) :: e :: entries) =
      .string (some key) :: .colon :: (j.tokens ++ .comma :: tokensOfEntries (e :: entries)) := rfl

theorem Token.delimited_nil : Token.Delimited [] := by
  rintro b ⟨⟩

theorem Token.delimited_cons {b : UInt8} (hb : b = 44 ∨ b = 93 ∨ b = 125) (rest : Bytes) :
    Token.Delimited (b :: rest) := by
  intro c hc
  cases hc
  exact hb

mutual

theorem ofBytes_chars (j : Json) (hj : j.isPlain = true) {rest : Bytes}
    (hrest : Token.Delimited rest) :
    Token.ofBytes (ofChars j.chars ++ rest) = j.tokens ++ Token.ofBytes rest :=
  match j with
  | null => Token.ofBytes_null rest
  | bool true => Token.ofBytes_true rest
  | bool false => Token.ofBytes_false rest
  | number (.int n) => by
    simp only [isPlain, Bool.and_eq_true, decide_eq_true_eq] at hj
    exact Token.ofBytes_int hj.1 hj.2 hrest
  | text s => Token.ofBytes_quote s rest
  | array items => by
    have hclose := Token.ofBytes_mark (b := 93) rfl rfl rest
    have hitems := ofBytes_charsOfItems items hj (Token.delimited_cons (.inr (.inl rfl)) rest)
    have hbytes : ofChars (array items).chars ++ rest =
        91 :: (ofChars (charsOfItems items) ++ 93 :: rest) := by
      rw [chars, ofChars_append, ofChars_cons, List.append_assoc]
      rfl
    rw [hbytes, Token.ofBytes_mark rfl rfl, hitems, hclose, tokens, List.append_assoc]
    rfl
  | object entries => by
    have hclose := Token.ofBytes_mark (b := 125) rfl rfl rest
    have hentries := ofBytes_charsOfEntries entries hj (Token.delimited_cons (.inr (.inr rfl)) rest)
    have hbytes : ofChars (object entries).chars ++ rest =
        123 :: (ofChars (charsOfEntries entries) ++ 125 :: rest) := by
      rw [chars, ofChars_append, ofChars_cons, List.append_assoc]
      rfl
    rw [hbytes, Token.ofBytes_mark rfl rfl, hentries, hclose, tokens, List.append_assoc]
    rfl

theorem ofBytes_charsOfItems (items : List Json) (hitems : arePlain items = true) {rest : Bytes}
    (hrest : Token.Delimited rest) :
    Token.ofBytes (ofChars (charsOfItems items) ++ rest) =
      tokensOfItems items ++ Token.ofBytes rest :=
  match items with
  | [] => rfl
  | [j] => ofBytes_chars j (Bool.and_eq_true_iff.mp hitems).1 hrest
  | j :: k :: items => by
    obtain ⟨hj, hitems⟩ := Bool.and_eq_true_iff.mp hitems
    have hcomma := Token.ofBytes_mark (b := 44) rfl rfl (ofChars (charsOfItems (k :: items)) ++ rest)
    have hfirst := ofBytes_chars j hj
      (Token.delimited_cons (.inl rfl) (ofChars (charsOfItems (k :: items)) ++ rest))
    have hmore := ofBytes_charsOfItems (k :: items) hitems hrest
    have hbytes : ofChars (charsOfItems (j :: k :: items)) ++ rest =
        ofChars j.chars ++ 44 :: (ofChars (charsOfItems (k :: items)) ++ rest) := by
      rw [charsOfItems_cons, ofChars_append, ofChars_cons, List.append_assoc]
      rfl
    rw [hbytes, hfirst, hcomma, hmore, tokensOfItems_cons, List.append_assoc]
    rfl

theorem ofBytes_charsOfEntries (entries : List (String × Json))
    (hentries : arePlainEntries entries = true) {rest : Bytes} (hrest : Token.Delimited rest) :
    Token.ofBytes (ofChars (charsOfEntries entries) ++ rest) =
      tokensOfEntries entries ++ Token.ofBytes rest :=
  match entries with
  | [] => rfl
  | [(key, j)] => by
    have hcolon := Token.ofBytes_mark (b := 58) rfl rfl (ofChars j.chars ++ rest)
    have hvalue := ofBytes_chars j (Bool.and_eq_true_iff.mp hentries).1 hrest
    have hbytes : ofChars (charsOfEntries [(key, j)]) ++ rest =
        ofChars (quote key) ++ 58 :: (ofChars j.chars ++ rest) := by
      rw [charsOfEntries, ofChars_append, ofChars_cons, List.append_assoc]
      rfl
    rw [hbytes, Token.ofBytes_quote, hcolon, hvalue]
    rfl
  | (key, j) :: e :: entries => by
    obtain ⟨hj, hentries⟩ := Bool.and_eq_true_iff.mp hentries
    have hcomma :=
      Token.ofBytes_mark (b := 44) rfl rfl (ofChars (charsOfEntries (e :: entries)) ++ rest)
    have hfirst := ofBytes_chars j hj
      (Token.delimited_cons (.inl rfl) (ofChars (charsOfEntries (e :: entries)) ++ rest))
    have hcolon := Token.ofBytes_mark (b := 58) rfl rfl
      (ofChars j.chars ++ 44 :: (ofChars (charsOfEntries (e :: entries)) ++ rest))
    have hmore := ofBytes_charsOfEntries (e :: entries) hentries hrest
    have hbytes : ofChars (charsOfEntries ((key, j) :: e :: entries)) ++ rest =
        ofChars (quote key) ++ 58 :: (ofChars j.chars ++
          44 :: (ofChars (charsOfEntries (e :: entries)) ++ rest)) := by
      rw [charsOfEntries_cons, ofChars_append, ofChars_cons, ofChars_append, ofChars_cons]
      simp only [List.append_assoc]
      rfl
    rw [hbytes, Token.ofBytes_quote, hcolon, hfirst, hcomma, hmore, tokensOfEntries_cons]
    simp only [List.cons_append, List.append_assoc]

end

namespace Reader

theorem run_firstItem {j : Json} (hj : j.isPlain = true) (frames : List Frame)
    (rest : List Token) :
    Reader.run ⟨frames, .firstItem⟩ (j.tokens ++ rest) =
      Reader.run ⟨frames, .value⟩ (j.tokens ++ rest) := by
  cases j with
  | broken => cases hj
  | _ => rfl

theorem run_firstItems {j : Json} {items : List Json} (hitems : arePlain (j :: items) = true)
    (frames : List Frame) (rest : List Token) :
    Reader.run ⟨frames, .firstItem⟩ (tokensOfItems (j :: items) ++ rest) =
      Reader.run ⟨frames, .value⟩ (tokensOfItems (j :: items) ++ rest) := by
  have hj := (Bool.and_eq_true_iff.mp hitems).1
  cases items with
  | nil => exact run_firstItem hj frames rest
  | cons k items =>
    rw [tokensOfItems_cons, List.append_assoc]
    exact run_firstItem hj frames _

theorem run_firstKey (e : String × Json) (entries : List (String × Json)) (frames : List Frame)
    (rest : List Token) :
    Reader.run ⟨frames, .firstKey []⟩ (tokensOfEntries (e :: entries) ++ rest) =
      Reader.run ⟨frames, .key []⟩ (tokensOfEntries (e :: entries) ++ rest) := by
  cases entries <;> rfl

mutual

theorem run_tokens (j : Json) (hj : j.isPlain = true) (frames : List Frame) (rest : List Token) :
    Reader.run ⟨frames, .value⟩ (j.tokens ++ rest) = Reader.run ⟨frames, .more j⟩ rest :=
  match j with
  | null | bool _ | number _ | text _ => rfl
  | array [] => rfl
  | array (j :: items) => by
    have hitems := run_tokensOfItems (j :: items) (List.cons_ne_nil j items) hj frames [] rest
    have hopen : Reader.run ⟨frames, .value⟩ ((array (j :: items)).tokens ++ rest) =
        Reader.run ⟨.array [] :: frames, .firstItem⟩
          (tokensOfItems (j :: items) ++ .closeBracket :: rest) := by
      rw [tokens, List.append_assoc]
      rfl
    rw [hopen, run_firstItems hj, hitems]
    rfl
  | object [] => rfl
  | object (e :: entries) => by
    have hentries := run_tokensOfEntries (e :: entries) (List.cons_ne_nil e entries) hj frames [] rest
    have hopen : Reader.run ⟨frames, .value⟩ ((object (e :: entries)).tokens ++ rest) =
        Reader.run ⟨frames, .firstKey []⟩
          (tokensOfEntries (e :: entries) ++ .closeBrace :: rest) := by
      rw [tokens, List.append_assoc]
      rfl
    rw [hopen, run_firstKey, hentries]
    rfl

theorem run_tokensOfItems (items : List Json) (hne : items ≠ []) (hitems : arePlain items = true)
    (frames : List Frame) (seen : List Json) (rest : List Token) :
    Reader.run ⟨.array seen :: frames, .value⟩ (tokensOfItems items ++ .closeBracket :: rest) =
      Reader.run ⟨frames, .more (.array (seen.reverse ++ items))⟩ rest :=
  match items with
  | [] => absurd rfl hne
  | [j] => by
    have hj := run_tokens j (Bool.and_eq_true_iff.mp hitems).1 (.array seen :: frames)
      (.closeBracket :: rest)
    have hclose : Reader.run ⟨.array seen :: frames, .more j⟩ (.closeBracket :: rest) =
        Reader.run ⟨frames, .more (.array (j :: seen).reverse)⟩ rest := rfl
    rw [tokensOfItems, hj, hclose, List.reverse_cons]
  | j :: k :: items => by
    obtain ⟨hj, hitems⟩ := Bool.and_eq_true_iff.mp hitems
    have hj := run_tokens j hj (.array seen :: frames)
      (.comma :: (tokensOfItems (k :: items) ++ .closeBracket :: rest))
    have hmore := run_tokensOfItems (k :: items) (List.cons_ne_nil k items) hitems frames
      (j :: seen) rest
    rw [List.reverse_cons, List.append_assoc] at hmore
    rw [tokensOfItems_cons, List.append_assoc, List.cons_append, hj]
    exact hmore

theorem run_tokensOfEntries (entries : List (String × Json)) (hne : entries ≠ [])
    (hentries : arePlainEntries entries = true) (frames : List Frame)
    (seen : List (String × Json)) (rest : List Token) :
    Reader.run ⟨frames, .key seen⟩ (tokensOfEntries entries ++ .closeBrace :: rest) =
      Reader.run ⟨frames, .more (.object (seen.reverse ++ entries))⟩ rest :=
  match entries with
  | [] => absurd rfl hne
  | [(key, j)] => by
    have hj := run_tokens j (Bool.and_eq_true_iff.mp hentries).1 (.object seen key :: frames)
      (.closeBrace :: rest)
    have hclose : Reader.run ⟨.object seen key :: frames, .more j⟩ (.closeBrace :: rest) =
        Reader.run ⟨frames, .more (.object ((key, j) :: seen).reverse)⟩ rest := rfl
    rw [List.reverse_cons] at hclose
    exact hj.trans hclose
  | (key, j) :: e :: entries => by
    obtain ⟨hj, hentries⟩ := Bool.and_eq_true_iff.mp hentries
    have hj := run_tokens j hj (.object seen key :: frames)
      (.comma :: (tokensOfEntries (e :: entries) ++ .closeBrace :: rest))
    have hmore := run_tokensOfEntries (e :: entries) (List.cons_ne_nil e entries) hentries frames
      ((key, j) :: seen) rest
    rw [List.reverse_cons, List.append_assoc] at hmore
    rw [tokensOfEntries_cons, List.cons_append, List.cons_append, List.append_assoc, List.cons_append]
    exact hj.trans hmore

end

end Reader

theorem read_compact {j : Json} (hj : j.isPlain = true) :
    read (Bytes.ofText j.compact) = ⟨j, false⟩ := by
  have hbytes := ofBytes_chars j hj Token.delimited_nil
  have hrun := Reader.run_tokens j hj [] []
  rw [List.append_nil] at hbytes
  rw [read, compact, ofText_ofList, hbytes, Token.ofBytes, Reader.start, hrun]
  rfl

end Roster.Json
