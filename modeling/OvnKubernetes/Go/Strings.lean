import Mathlib.Data.List.Chain
import Mathlib.Data.List.DropRight
import Mathlib.Data.List.Infix

/-!
# The `strings` and `strconv` functions the configuration code calls

`parseClusterSubnetEntries` and `newOvnDBAuth` take their input apart with `strings.Split` on a
single separator (`","`, `"/"`, `":"`), `buildOvnAuth` tests `strings.HasPrefix`, `newOvnDBAuth`
first deletes every `//` with `strings.Replace(urlString, "//", "", -1)`, and host-subnet lengths
are read by `strconv.ParseUint(s, 10, 32)`; `runOVSVsctl` cleans what `ovs-vsctl` prints with
`strings.TrimSpace` and `strings.Trim(_, "\"")`. A Go string is a Lean `String`; every separator the
code uses is ASCII, so splitting on a character and on a byte agree.

`strings.Split` on one character is `List.splitOn` on the characters, and a `","`-joined list is
`List.intercalate`, so Mathlib's `List.intercalate_splitOn` and `List.splitOn_intercalate` give
`split_eq_iff`: a split is determined by its pieces lacking the separator and joining back to the
string. `NoDoubleSlash` is what `replaceDoubleSlashes` establishes and what it leaves alone.
-/

namespace OvnKubernetes

/-- Results of the model are compared by `decide`. -/
instance instDecidableEqExcept {ε α : Type} [DecidableEq ε] [DecidableEq α] :
    DecidableEq (Except ε α)
  | .error a, .error b => decidable_of_iff (a = b) (by simp)
  | .ok a, .ok b => decidable_of_iff (a = b) (by simp)
  | .error _, .ok _ => isFalse (by simp)
  | .ok _, .error _ => isFalse (by simp)

theorem Except.bind_eq_ok {ε α β : Type} {x : Except ε α} {f : α → Except ε β} {b : β} :
    x >>= f = .ok b ↔ ∃ a, x = .ok a ∧ f a = .ok b := by
  cases x <;> simp [bind, Except.bind]

theorem forall_mem_of_forall₂ {α β : Type} {R : α → β → Prop} {P : β → Prop} :
    ∀ {xs : List α} {ys : List β}, List.Forall₂ R xs ys → (∀ x ∈ xs, ∀ y, R x y → P y) →
      ∀ y ∈ ys, P y
  | _, _, .nil, _ => by simp
  | _, _, .cons hr h, hP => by
    simp only [List.mem_cons, forall_eq_or_imp]
    exact ⟨hP _ (List.mem_cons_self _ _) _ hr,
      forall_mem_of_forall₂ h fun x hx => hP x (List.mem_cons_of_mem _ hx)⟩

end OvnKubernetes

namespace OvnKubernetes.Strings

/-- `strings.Split(s, string(sep))`. -/
def split (s : String) (sep : Char) : List String := (s.data.splitOn sep).map String.mk

/-- `strings.Join(xs, string(sep))`. -/
def join (sep : Char) (xs : List String) : String := ⟨[sep].intercalate (xs.map String.data)⟩

/-- `strings.HasPrefix(s, p)`. -/
def hasPrefix (s p : String) : Bool := p.data.isPrefixOf s.data

/-- `strings.Contains(s, substr)`. -/
def contains (s substr : String) : Bool := decide (substr.data <:+: s.data)

/-- `strings.ToLower(s)` on ASCII: each of `A` to `Z` lowered (`unicode.ToLower` of other
letters is not modelled). -/
def toLower (s : String) : String := ⟨s.data.map Char.toLower⟩

/-- `strings.Replace(s, "//", "", -1)` on the characters: each `//`, found from the left without
overlap, is deleted. -/
def removeDoubleSlashes : List Char → List Char
  | [] => []
  | '/' :: '/' :: rest => removeDoubleSlashes rest
  | c :: rest => c :: removeDoubleSlashes rest

/-- `strings.Replace(s, "//", "", -1)`. -/
def replaceDoubleSlashes (s : String) : String := ⟨removeDoubleSlashes s.data⟩

/-! ### Splitting and joining -/

@[simp] theorem join_nil (sep : Char) : join sep [] = "" := rfl

@[simp] theorem join_singleton (sep : Char) (x : String) : join sep [x] = x := by
  simp [join, List.intercalate]

theorem join_cons_cons (sep : Char) (x y : String) (xs : List String) :
    join sep (x :: y :: xs) = x ++ ⟨[sep]⟩ ++ join sep (y :: xs) := by
  simp [join, List.intercalate, String.ext_iff]

theorem not_mem_of_mem_splitOn {c : Char} :
    ∀ {l x : List Char}, x ∈ l.splitOn c → c ∉ x
  | [], x, hx => by simp_all [List.splitOn]
  | d :: l, x, hx => by
    rw [List.splitOn, List.splitOnP_cons] at hx
    split_ifs at hx with hd
    · rcases List.mem_cons.1 hx with rfl | hx
      · simp
      · exact not_mem_of_mem_splitOn hx
    · obtain ⟨r, rs, hr⟩ := List.exists_cons_of_ne_nil (List.splitOnP_ne_nil (· == c) l)
      rw [hr, List.modifyHead_cons] at hx
      have hr' : ∀ y ∈ r :: rs, y ∈ l.splitOn c := fun y hy => by rw [List.splitOn, hr]; exact hy
      rcases List.mem_cons.1 hx with rfl | hx
      · simp only [List.mem_cons, not_or]
        exact ⟨fun h => hd (by simp [h]), not_mem_of_mem_splitOn (hr' r (by simp))⟩
      · exact not_mem_of_mem_splitOn (hr' x (List.mem_cons_of_mem _ hx))

theorem splitOn_eq_iff {l : List Char} {c : Char} {ls : List (List Char)} :
    l.splitOn c = ls ↔ ls ≠ [] ∧ (∀ x ∈ ls, c ∉ x) ∧ [c].intercalate ls = l := by
  constructor
  · rintro rfl
    exact ⟨List.splitOnP_ne_nil _ _, fun x hx => not_mem_of_mem_splitOn hx,
      List.intercalate_splitOn l c⟩
  · rintro ⟨hne, hc, rfl⟩
    exact List.splitOn_intercalate ls c hc hne

theorem split_eq_iff {s : String} {c : Char} {xs : List String} :
    split s c = xs ↔ xs ≠ [] ∧ (∀ x ∈ xs, c ∉ x.data) ∧ join c xs = s := by
  have h : split s c = xs ↔ s.data.splitOn c = xs.map String.data := by
    constructor
    · rintro rfl
      simp [split, Function.comp_def]
    · intro h
      simp [split, h, Function.comp_def]
  rw [h, splitOn_eq_iff, join, String.ext_iff]
  simp

@[simp] theorem join_split (s : String) (c : Char) : join c (split s c) = s :=
  (split_eq_iff.1 rfl).2.2

theorem split_join {c : Char} {xs : List String} (hne : xs ≠ [])
    (hc : ∀ x ∈ xs, c ∉ x.data) : split (join c xs) c = xs :=
  split_eq_iff.2 ⟨hne, hc, rfl⟩

theorem not_mem_of_mem_split {s x : String} {c : Char} (hx : x ∈ split s c) : c ∉ x.data :=
  (split_eq_iff.1 rfl).2.1 x hx

theorem infix_join_of_mem {c : Char} :
    ∀ {xs : List String} {x : String}, x ∈ xs → x.data <:+: (join c xs).data
  | [], _, h => absurd h (List.not_mem_nil _)
  | [y], x, h => by
    obtain rfl := List.mem_singleton.1 h
    exact (congrArg (fun s : String => x.data <:+: s.data) (join_singleton c x)).mpr
      (List.infix_refl x.data)
  | y :: z :: zs, x, h => by
    rw [join_cons_cons]
    rcases List.mem_cons.1 h with rfl | h
    · exact ⟨[], [c] ++ (join c (z :: zs)).data, by simp⟩
    · exact (@infix_join_of_mem c _ _ h).trans ⟨y.data ++ [c], [], by simp⟩

theorem join_ne_empty {c : Char} {xs : List String} {x : String} (hx : x ∈ xs) (hne : x ≠ "") :
    join c xs ≠ "" := fun h => by
  have hi := @infix_join_of_mem c _ _ hx
  rw [h] at hi
  exact hne (String.ext (List.infix_nil.1 hi))

theorem join_append_singleton {c : Char} {y : String} :
    ∀ {xs : List String}, xs ≠ [] → join c (xs ++ [y]) = join c xs ++ ⟨[c]⟩ ++ y
  | [x], _ => by simp [join_cons_cons]
  | x :: x' :: xs, _ => by
    rw [List.cons_append, List.cons_append, join_cons_cons, ← List.cons_append,
      join_append_singleton (List.cons_ne_nil _ _), join_cons_cons]
    simp only [String.append_assoc]

theorem split_ne_nil (s : String) (c : Char) : split s c ≠ [] := (split_eq_iff.1 rfl).1

theorem head?_join_cons {c : Char} {x : String} (xs : List String) (hx : x ≠ "") :
    (join c (x :: xs)).data.head? = x.data.head? := by
  obtain ⟨d, l, hl⟩ := List.exists_cons_of_ne_nil fun h => hx (String.ext h)
  cases xs <;> simp [join_cons_cons, hl]

theorem infix_of_mem_split {s x : String} {c : Char} (hx : x ∈ split s c) :
    x.data <:+: s.data := by
  simpa using @infix_join_of_mem c _ _ hx

theorem split_eq_three {s a b d : String} {c : Char} :
    split s c = [a, b, d] ↔ c ∉ a.data ∧ c ∉ b.data ∧ c ∉ d.data ∧
      s.data = a.data ++ c :: b.data ++ c :: d.data := by
  rw [split_eq_iff, join_cons_cons, join_cons_cons, join_singleton, String.ext_iff]
  simp [and_assoc, @eq_comm _ _ s.data]

/-! ### Deleting `//` -/

/-- No two consecutive slashes. -/
def NoDoubleSlash (l : List Char) : Prop := l.Chain' fun a b => a = '/' → b ≠ '/'

theorem head?_removeDoubleSlashes_cons {c : Char} (hc : c ≠ '/') (l : List Char) :
    (removeDoubleSlashes (c :: l)).head? = some c := by
  rw [removeDoubleSlashes.eq_3 _ _ (fun _ h => (hc h).elim)]; rfl

theorem noDoubleSlash_removeDoubleSlashes (l : List Char) :
    NoDoubleSlash (removeDoubleSlashes l) := by
  induction l using removeDoubleSlashes.induct with
  | case1 => exact List.chain'_nil
  | case2 rest ih => rwa [removeDoubleSlashes]
  | case3 c rest hc ih =>
    rw [removeDoubleSlashes.eq_3 _ _ hc, NoDoubleSlash, List.chain'_cons']
    refine ⟨fun d hd hc' => ?_, ih⟩
    subst hc'
    match rest, hd with
    | [], hd => simp [removeDoubleSlashes] at hd
    | e :: rest, hd =>
      have he : e ≠ '/' := fun he => hc rest rfl (he ▸ rfl)
      rw [head?_removeDoubleSlashes_cons he] at hd
      exact Option.some_injective _ hd ▸ he

theorem removeDoubleSlashes_of_noDoubleSlash {l : List Char} (h : NoDoubleSlash l) :
    removeDoubleSlashes l = l := by
  induction l using removeDoubleSlashes.induct with
  | case1 => rfl
  | case2 rest _ => exact absurd rfl ((List.chain'_cons.1 h).1 rfl)
  | case3 c rest hc ih =>
    rw [removeDoubleSlashes.eq_3 _ _ hc, ih (List.Chain'.tail h)]

@[simp] theorem replaceDoubleSlashes_idem (s : String) :
    replaceDoubleSlashes (replaceDoubleSlashes s) = replaceDoubleSlashes s :=
  congrArg String.mk (removeDoubleSlashes_of_noDoubleSlash (noDoubleSlash_removeDoubleSlashes _))

theorem noDoubleSlash_append_cons {x y : List Char} {c : Char} (hc : c ≠ '/')
    (hx : NoDoubleSlash x) (hy : NoDoubleSlash y) : NoDoubleSlash (x ++ c :: y) := by
  refine List.chain'_append.2 ⟨hx, List.chain'_cons'.2 ⟨fun d _ h => (hc h).elim, hy⟩, ?_⟩
  intro a _ b hb _
  simp only [List.head?_cons, Option.mem_def, Option.some.injEq] at hb
  exact hb ▸ hc

theorem NoDoubleSlash.of_isInfix {x l : List Char} (h : NoDoubleSlash l) (hx : x <:+: l) :
    NoDoubleSlash x :=
  List.Chain'.infix h hx

theorem noDoubleSlash_join {c : Char} (hc : c ≠ '/') :
    ∀ {xs : List String}, (∀ x ∈ xs, NoDoubleSlash x.data) → NoDoubleSlash (join c xs).data
  | [], _ => List.chain'_nil
  | [x], h => by simpa using h x (List.mem_singleton_self x)
  | x :: y :: ys, h => by
    rw [join_cons_cons, String.data_append, String.data_append, List.append_assoc]
    exact noDoubleSlash_append_cons hc (h x (List.mem_cons_self _ _))
      (noDoubleSlash_join hc fun z hz => h z (List.mem_cons_of_mem _ hz))

/-! ### Trimming -/

/-- `unicode.IsSpace`: in Latin-1 `'\t'`, `'\n'`, `'\v'`, `'\f'`, `'\r'`, `' '`, U+0085 and
U+00A0; above it the other code points of Unicode's `White_Space`. -/
def isSpace (c : Char) : Bool :=
  if c.toNat ≤ 0xFF then
    c.toNat = 0x09 || c.toNat = 0x0A || c.toNat = 0x0B || c.toNat = 0x0C || c.toNat = 0x0D ||
      c.toNat = 0x20 || c.toNat = 0x85 || c.toNat = 0xA0
  else
    c.toNat = 0x1680 || (0x2000 ≤ c.toNat && c.toNat ≤ 0x200A) || c.toNat = 0x2028 ||
      c.toNat = 0x2029 || c.toNat = 0x202F || c.toNat = 0x205F || c.toNat = 0x3000

/-- `strings.TrimFunc(s, f)`: the leading, then the trailing characters that satisfy `f` go. -/
def trimFunc (s : String) (f : Char → Bool) : String := ⟨(s.data.dropWhile f).rdropWhile f⟩

/-- `strings.TrimSpace(s)`. -/
def trimSpace (s : String) : String := trimFunc s isSpace

/-- `strings.Trim(s, cutset)`. -/
def trim (s cutset : String) : String := trimFunc s fun c => decide (c ∈ cutset.data)

theorem rdropWhile_append_cons {α : Type} {p : α → Bool} {l r : List α} {x : α}
    (hx : p x = false) (hr : ∀ y ∈ r, p y) : (l ++ x :: r).rdropWhile p = l ++ [x] := by
  rw [List.rdropWhile, List.reverse_append, List.reverse_cons, List.append_assoc,
    List.dropWhile_append_of_pos fun a ha => hr a (List.mem_reverse.1 ha), List.singleton_append,
    List.dropWhile_cons_of_neg (by simp [hx])]
  simp

theorem trimSpace_quoted (s : String) : trimSpace ("\"" ++ s ++ "\"") = "\"" ++ s ++ "\"" := by
  have hd : ("\"" ++ s ++ "\"").data = ('"' :: s.data) ++ ['"'] := by simp
  have hq : isSpace '"' = false := by decide
  rw [trimSpace, trimFunc, hd, List.cons_append, List.dropWhile_cons_of_neg (by simp [hq]),
    ← List.cons_append, rdropWhile_append_cons hq (by simp)]
  simp [String.ext_iff]

theorem trimSpace_quoted_line (s : String) :
    trimSpace ("\"" ++ s ++ "\"" ++ "\n") = "\"" ++ s ++ "\"" := by
  have hd : ("\"" ++ s ++ "\"" ++ "\n").data = ('"' :: s.data) ++ '"' :: ['\n'] := by simp
  have hq : isSpace '"' = false := by decide
  rw [trimSpace, trimFunc, hd, List.cons_append, List.dropWhile_cons_of_neg (by simp [hq]),
    ← List.cons_append, rdropWhile_append_cons hq (by decide)]
  simp [String.ext_iff]

theorem trim_quoted {s : String} (h₁ : s.data.head? ≠ some '"') (h₂ : s.data.getLast? ≠ some '"') :
    trim ("\"" ++ s ++ "\"") "\"" = s := by
  obtain ⟨_ | ⟨c, l⟩⟩ := s
  · decide
  have hc : c ≠ '"' := fun h => h₁ (by simp [h])
  have hd : ("\"" ++ ⟨c :: l⟩ ++ "\"" : String).data = '"' :: ((c :: l) ++ ['"']) := by simp
  rw [trim, trimFunc, hd, List.dropWhile_cons_of_pos (by decide), List.cons_append,
    List.dropWhile_cons_of_neg (by simpa using hc), ← List.cons_append,
    List.rdropWhile_concat_pos _ _ _ (by decide),
    List.rdropWhile_eq_self_iff.2 fun hl h => h₂ (by rw [List.getLast?_eq_getLast _ hl]; simpa using h)]

end OvnKubernetes.Strings

namespace OvnKubernetes.Strconv

/-- The `*strconv.NumError` of `ParseUint`: its `Err` is `ErrSyntax` or `ErrRange`, for the input. -/
inductive NumError
  | invalid (num : String)
  | range (num : String)
  deriving DecidableEq, Repr

/-- `strconv.ParseUint(s, 10, bitSize)`: decimal digits only, an error on the first
non-digit, a range error once the value passes `maxVal = 1<<bitSize - 1`, or before it is
multiplied past `maxUint64` (`cutoff`). Go's `uint64` overflow test `n1 < n` never fires before
`n1 > maxVal` does, so `Nat` arithmetic computes the same. -/
def parseUint (s : String) (bitSize : Nat) : Except NumError Nat :=
  if s.data = [] then .error (.invalid s) else go s.data 0
where
  /-- The digit loop, with the value read so far. -/
  go : List Char → Nat → Except NumError Nat
    | [], n => .ok n
    | d :: ds, n =>
      if d.isDigit then
        if (1 <<< 64 - 1) / 10 + 1 ≤ n then .error (.range s)
        else
          let n1 := n * 10 + (d.toNat - '0'.toNat)
          if 1 <<< bitSize - 1 < n1 then .error (.range s) else go ds n1
      else .error (.invalid s)

example : parseUint "24" 32 = .ok 24 := by decide
example : parseUint "4294967296" 32 = .error (.range "4294967296") := by decide

theorem parseUint_go_lt {s : String} {bitSize : Nat} :
    ∀ {l : List Char} {n m : Nat}, n < 1 <<< bitSize → parseUint.go s bitSize l n = .ok m →
      m < 1 <<< bitSize
  | [], n, m, hn, h => by cases h; exact hn
  | d :: ds, n, m, hn, h => by
    simp only [parseUint.go] at h
    split_ifs at h with h1 h2 h3
    exact parseUint_go_lt (by omega) h

theorem parseUint_lt {s : String} {bitSize n : Nat} (h : parseUint s bitSize = .ok n) :
    n < 1 <<< bitSize := by
  unfold parseUint at h
  split_ifs at h
  exact parseUint_go_lt (by rw [Nat.shiftLeft_eq, Nat.one_mul]; exact Nat.two_pow_pos _) h

/-- `strconv.Atoi(s)` where `int` has 64 bits. Below 19 bytes, the fast path: an optional sign,
then at least one byte, each a decimal digit. Otherwise `ParseInt(s, 10, 0)`: the sign, then
`ParseUint` on the rest, and a range error past `int64`. Every error carries `s` itself. -/
def atoi (s : String) : Except NumError Int :=
  let neg := s.data.head? = some '-'
  let digits : List Char := if neg ∨ s.data.head? = some '+' then s.data.tail else s.data
  if 0 < s.utf8ByteSize ∧ s.utf8ByteSize < 19 then
    if digits = [] ∨ digits.all Char.isDigit = false then .error (.invalid s)
    else
      let n := digits.foldl (fun n ch => n * 10 + (ch.toNat - '0'.toNat)) 0
      .ok (if neg then -(n : Int) else n)
  else if s.data = [] then .error (.invalid s)
  else
    match parseUint ⟨digits⟩ 64 with
    | .error (.invalid _) => .error (.invalid s)
    | .error (.range _) => .error (.range s)
    | .ok un =>
      if ¬ neg ∧ 1 <<< 63 ≤ un ∨ neg ∧ 1 <<< 63 < un then .error (.range s)
      else .ok (if neg then -(un : Int) else un)

example : atoi "12" = .ok 12 := by decide
example : atoi "-7" = .ok (-7) := by decide
example : atoi "12a" = .error (.invalid "12a") := by decide
example : atoi "99999999999999999999" = .error (.range "99999999999999999999") := by decide

end OvnKubernetes.Strconv
