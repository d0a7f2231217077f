/-!
# Quoting by doubling

A quoted text stands between two quote marks, and each quote mark inside it is written twice. The
quote mark is a parameter: double quotes for identifiers and delimited fields, single quotes for
string literals. Reading accepts exactly what writing produces (`decode_encode` and
`eq_encode_of_decode`), and finds the end of a quoted text whatever stands in it (`close_encode`).
-/

namespace Rollup.Text.Quoted

variable (quote : Char)

/-- Each quote mark is written twice, all else once. -/
def encode : List Char → List Char
  | [] => []
  | c :: cs => if c = quote then quote :: quote :: encode cs else c :: encode cs

/-- Undoubles the quote marks of an encoded text. A quote mark that stands alone is refused. -/
def decode : List Char → Option (List Char)
  | [] => some []
  | [c] => if c = quote then none else some [c]
  | c :: d :: cs =>
    if c = quote then
      if d = quote then (decode cs).map (quote :: ·) else none
    else (decode (d :: cs)).map (c :: ·)

def enclose (cs : List Char) : List Char := quote :: (encode quote cs ++ [quote])

/-- Reads the inside of a quoted text up to the quote mark that ends it, and returns what follows. -/
def close : List Char → Option (List Char × List Char)
  | [] => none
  | [c] => if c = quote then some ([], []) else none
  | c :: d :: cs =>
    if c = quote then
      if d = quote then (close cs).map fun (inside, rest) => (quote :: inside, rest)
      else some ([], d :: cs)
    else (close (d :: cs)).map fun (inside, rest) => (c :: inside, rest)

variable {quote : Char}

theorem decode_cons_of_ne {c : Char} (h : c ≠ quote) (cs : List Char) :
    decode quote (c :: cs) = (decode quote cs).map (c :: ·) := by
  cases cs with
  | nil => simp [decode, h]
  | cons d cs => simp [decode, h]

theorem decode_encode (cs : List Char) : decode quote (encode quote cs) = some cs := by
  induction cs with
  | nil => rfl
  | cons c cs ih =>
    by_cases h : c = quote
    · subst h
      simp [encode, decode, ih]
    · simp [encode, h, decode_cons_of_ne h, ih]

theorem eq_encode_of_decode {written cs : List Char} (h : decode quote written = some cs) :
    written = encode quote cs := by
  fun_induction decode quote written generalizing cs with
  | case1 => simp_all [encode]
  | case2 => simp at h
  | case3 c hc =>
    obtain rfl : [c] = cs := by simpa using h
    simp [encode, hc]
  | case4 rest ih =>
    obtain ⟨inside, hinside, rfl⟩ := Option.map_eq_some_iff.1 h
    simp [encode, ih hinside]
  | case5 => simp at h
  | case6 c d rest hc ih =>
    obtain ⟨inside, hinside, rfl⟩ := Option.map_eq_some_iff.1 h
    simp [encode, hc, ih hinside]

theorem close_cons_of_ne {c : Char} (h : c ≠ quote) (cs : List Char) :
    close quote (c :: cs) = (close quote cs).map fun (inside, rest) => (c :: inside, rest) := by
  cases cs with
  | nil => simp [close, h]
  | cons d cs => simp [close, h]

/-- A quote mark ends a quoted text unless another one follows. -/
theorem close_cons_quote {rest : List Char} (h : rest.head? ≠ some quote) :
    close quote (quote :: rest) = some ([], rest) := by
  cases rest with
  | nil => simp [close]
  | cons d rest =>
    have hd : d ≠ quote := by simpa using h
    simp [close, hd]

/-- What is behind a quoted text must not begin with a quote mark, or it would be taken for a part. -/
theorem close_encode {rest : List Char} (h : rest.head? ≠ some quote) (cs : List Char) :
    close quote (encode quote cs ++ quote :: rest) = some (cs, rest) := by
  induction cs with
  | nil => exact close_cons_quote h
  | cons c cs ih =>
    by_cases hc : c = quote
    · subst hc
      simp [encode, close, ih]
    · simp [encode, hc, close_cons_of_ne hc, ih]

end Rollup.Text.Quoted
