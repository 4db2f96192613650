import Mathlib.Data.List.Basic

namespace AnglerHal.CString

/-!
# Strings in a block of bytes

A block is a list of bytes and a pointer into it is an index.  A function has no
result when it reads or writes a byte that the block does not have, so a result
is also the promise that it stayed inside its blocks.
-/

/-- A block of memory. -/
abbrev Bytes :=
  List UInt8

/-- `,`. -/
def comma : UInt8 :=
  44

/-- `isspace`. -/
def isSpace (byte : UInt8) : Bool :=
  byte == 32 || (9 ≤ byte && byte ≤ 13)

/-- `strlcpy`: what arrives in a buffer of `size` bytes, and the length of the source. -/
def strlcpy (source : Bytes) (size : Nat) : Bytes × Nat :=
  (source.take (size - 1), source.length)

/-- How many bytes precede the first one at which a loop stops. -/
def scan (stop : UInt8 → Bool) : Bytes → Option Nat
  | [] => none
  | byte :: rest => if stop byte then some 0 else (scan stop rest).map (· + 1)

/-- `strlen` of the string at a pointer. -/
def strlen (block : Bytes) (pointer : Nat) : Option Nat :=
  scan (· == 0) (block.drop pointer)

/-- `strchr` of the string at a pointer. -/
def strchr (block : Bytes) (pointer : Nat) (char : UInt8) : Option (Option Nat) := do
  let length ← scan (fun byte => byte == char || byte == 0) (block.drop pointer)
  let found ← block[pointer + length]?
  return if found = char then some (pointer + length) else none

/-- The bytes that `strncpy` writes: those of the source up to its end, then zeros. -/
def strncpyBytes : Bytes → Nat → Option Bytes
  | _, 0 => some []
  | [], _ + 1 => none
  | byte :: rest, count + 1 =>
    if byte = 0 then
      some (List.replicate (count + 1) 0)
    else
      (strncpyBytes rest count).map (byte :: ·)

/-- `strncpy` to the begin of a block, from what follows a pointer. -/
def strncpy (target source : Bytes) (count : Nat) : Option Bytes := do
  let written ← strncpyBytes source count
  if count ≤ target.length then some (written ++ target.drop count) else none

/-- `target[index] = byte`. -/
def store (target : Bytes) (index : Nat) (byte : UInt8) : Option Bytes :=
  if index < target.length then some (target.set index byte) else none

/-- `strncmp` of two strings over `count` bytes finds no difference. -/
def strncmpEq : Bytes → Bytes → Nat → Option Bool
  | _, _, 0 => some true
  | byte :: rest, byte' :: rest', count + 1 =>
    if byte ≠ byte' then
      some false
    else if byte = 0 then
      some true
    else
      strncmpEq rest rest' count
  | _, _, _ + 1 => none

/--
`strtok_r` with one delimiter: the block after the call, the token and the saved
pointer.
-/
def strtokR (delim : UInt8) (block : Bytes) (pointer saved : Option Nat) :
    Option (Bytes × Option Nat × Option Nat) :=
  match pointer.or saved with
  | none => some (block, none, none)
  | some start => do
    let skipped ← scan (· != delim) (block.drop start)
    let token := start + skipped
    let first ← block[token]?
    if first = 0 then
      some (block, none, none)
    else do
      let length ← scan (fun byte => byte == delim || byte == 0) (block.drop token)
      let last ← block[token + length]?
      if last = 0 then
        some (block, some token, none)
      else
        some (block.set (token + length) 0, some token, some (token + length + 1))

/-! ## On strings -/

variable {stop : UInt8 → Bool} {text rest name : Bytes} {last char : UInt8}

theorem scan_append (passes : ∀ byte ∈ text, stop byte = false)
    (stops : stop last = true) :
    scan stop (text ++ last :: rest) = some text.length := by
  induction text with
  | nil => simp [scan, stops]
  | cons byte text inductionHypothesis =>
    have later := inductionHypothesis fun other member => passes other (by simp [member])
    simp [scan, passes byte (by simp), later]

/-- A loop that stops at the first byte of some kind, which is there. -/
theorem scan_takeWhile (text rest : Bytes) (stops : stop last = true) :
    scan stop (text ++ last :: rest) = some (text.takeWhile fun byte => !stop byte).length := by
  induction text with
  | nil => simp [scan, stops]
  | cons byte text inductionHypothesis =>
    by_cases here : stop byte = true
    · simp [scan, here]
    · simp [scan, here, inductionHypothesis]

theorem strlen_append (before : Bytes) (noNul : 0 ∉ text) :
    strlen (before ++ text ++ 0 :: rest) before.length = some text.length := by
  rw [strlen, List.append_assoc, List.drop_left]
  refine scan_append (fun byte member => ?_) rfl
  have isNot : byte ≠ 0 := fun zero => noNul (zero ▸ member)
  simpa using isNot

theorem strlen_zero (noNul : 0 ∉ text) :
    strlen (text ++ 0 :: rest) 0 = some text.length :=
  strlen_append [] noNul

theorem getElem?_append_length (before rest : Bytes) (byte : UInt8) :
    (before ++ byte :: rest)[before.length]? = some byte := by
  simp

/-- A loop that stops at a character or at the end of the string. -/
theorem scan_of_not_mem (noNul : 0 ∉ text) (notIn : char ∉ text)
    (stops : last = char ∨ last = 0) :
    scan (fun byte => byte == char || byte == 0) (text ++ last :: rest) = some text.length := by
  refine scan_append (fun byte member => ?_) (by simpa using stops)
  have isNot : byte ≠ 0 := fun zero => noNul (zero ▸ member)
  have isOther : byte ≠ char := fun same => notIn (same ▸ member)
  simp [isNot, isOther]

/-- What `strchr` finds is the character, or the end of the string. -/
theorem strchr_append (before : Bytes) (rest : Bytes) (noNul : 0 ∉ text)
    (notIn : char ∉ text) (stops : last = char ∨ last = 0) :
    strchr (before ++ text ++ last :: rest) before.length char =
      some (if last = char then some (before.length + text.length) else none) := by
  rw [strchr, List.append_assoc, List.drop_left, scan_of_not_mem noNul notIn stops]
  simp

theorem strncpyBytes_append (noNul : 0 ∉ text) (count : Nat) :
    strncpyBytes (text ++ 0 :: rest) count =
      some (text.take count ++ List.replicate (count - text.length) 0) := by
  induction text generalizing count with
  | nil =>
    cases count with
    | zero => simp [strncpyBytes]
    | succ count => simp [strncpyBytes]
  | cons byte text inductionHypothesis =>
    cases count with
    | zero => simp [strncpyBytes]
    | succ count =>
      have isNot : byte ≠ 0 := fun zero => noNul (by simp [zero])
      have later := inductionHypothesis (fun member => noNul (by simp [member])) count
      simp [strncpyBytes, isNot, later]

/-- A string copied to the begin of a block and ended there. -/
theorem store_strncpy {target : Bytes} (rest : Bytes) (noNul : 0 ∉ text) (count : Nat)
    (fits : count < target.length) :
    ∃ copied after, strncpy target (text ++ 0 :: rest) count = some copied ∧
      store copied count 0 = some (text.take count ++ 0 :: after) ∧
      (text.take count ++ 0 :: after).length = target.length := by
  have writes : strncpy target (text ++ 0 :: rest) count =
      some (text.take count ++ List.replicate (count - text.length) 0 ++ target.drop count) := by
    rw [strncpy, strncpyBytes_append noNul]
    exact if_pos (Nat.le_of_lt fits)
  have writtenLength :
      (text.take count ++ List.replicate (count - text.length) 0).length = count := by
    simp only [List.length_append, List.length_take, List.length_replicate]
    omega
  have stored : (text.take count ++ List.replicate (count - text.length) 0 ++
      target.drop count).set count 0 =
        text.take count ++ 0 :: (List.replicate (count - text.length) 0 ++
          target.drop (count + 1)) := by
    rw [List.drop_eq_getElem_cons fits,
      List.set_append_right _ _ (Nat.le_of_eq writtenLength), writtenLength, Nat.sub_self,
      List.set_cons_zero, List.append_assoc]
    have moved : ∀ (zeros : Nat) (rest : Bytes),
        List.replicate zeros 0 ++ 0 :: rest = 0 :: (List.replicate zeros 0 ++ rest) := by
      intro zeros rest
      rw [List.append_cons, ← List.replicate_succ', List.replicate_succ, List.cons_append]
    rw [moved]
  have length : (text.take count ++ List.replicate (count - text.length) 0 ++
      target.drop count).length = target.length := by
    rw [List.length_append, writtenLength, List.length_drop]
    omega
  refine ⟨_, List.replicate (count - text.length) 0 ++ target.drop (count + 1), writes, ?_, ?_⟩
  · rw [store, if_pos (by rw [length]; exact fits), stored]
  · rw [← stored, List.length_set, length]

theorem strncmpEq_append (noNul : 0 ∉ text) (sameLength : text.length = name.length) :
    strncmpEq (text ++ rest) name name.length = some (decide (text = name)) := by
  induction text generalizing name with
  | nil =>
    obtain rfl := List.length_eq_zero_iff.mp sameLength.symm
    simp [strncmpEq]
  | cons byte text inductionHypothesis =>
    cases name with
    | nil => cases sameLength
    | cons byte' name =>
      have isNot : byte ≠ 0 := fun zero => noNul (by simp [zero])
      have later := inductionHypothesis (fun member => noNul (by simp [member]))
        (Nat.succ_inj.mp sameLength)
      by_cases same : byte = byte'
      · subst same
        simp [strncmpEq, isNot, later]
      · simp [strncmpEq, same]

/-- A string is compared with a name over the length of the name. -/
theorem strncmpEq_name (text rest : Bytes) (noNul : 0 ∉ name) :
    strncmpEq (text ++ 0 :: rest) name name.length = some (decide (name <+: text)) := by
  induction name generalizing text with
  | nil => simp [strncmpEq]
  | cons byte name inductionHypothesis =>
    have isNot : byte ≠ 0 := fun zero => noNul (by simp [zero])
    cases text with
    | nil => simp [strncmpEq, isNot.symm]
    | cons byte' text =>
      have later := inductionHypothesis text fun member => noNul (by simp [member])
      by_cases same : byte' = byte
      · subst same
        simp [strncmpEq, isNot, later, List.cons_prefix_cons]
      · simp [strncmpEq, same, Ne.symm same, List.cons_prefix_cons]

/-! ## Tokens -/

section Tokens

variable {delim : UInt8} {block before skipped token : Bytes}
  {pointer saved : Option Nat}

/-- Only delimiters are left. -/
theorem strtokR_done (isStart : pointer.or saved = some before.length)
    (isBlock : block = before ++ skipped ++ 0 :: rest)
    (delims : ∀ byte ∈ skipped, byte = delim) (isNot : delim ≠ 0) :
    strtokR delim block pointer saved = some (block, none, none) := by
  have scanned : scan (· != delim) (skipped ++ 0 :: rest) = some skipped.length :=
    scan_append (fun byte member => by simp [delims byte member]) (by simpa using isNot.symm)
  rw [strtokR, isStart]
  simp [isBlock, scanned]

/-- A token is left, which ends at a delimiter or at the end of the string. -/
theorem strtokR_token (isStart : pointer.or saved = some before.length)
    (isBlock : block = before ++ skipped ++ token ++ last :: rest)
    (delims : ∀ byte ∈ skipped, byte = delim) (nonempty : token ≠ [])
    (noNul : 0 ∉ token) (notIn : delim ∉ token) (stops : last = delim ∨ last = 0) :
    strtokR delim block pointer saved =
      some (before ++ skipped ++ token ++ 0 :: rest, some (before ++ skipped).length,
        if last = 0 then none else some ((before ++ skipped ++ token).length + 1)) := by
  obtain ⟨byte, token', rfl⟩ := List.exists_cons_of_ne_nil nonempty
  have isNot : byte ≠ 0 := fun zero => noNul (by simp [zero])
  have isOther : byte ≠ delim := fun same => notIn (by simp [same])
  have skips : scan (· != delim) (skipped ++ (byte :: token' ++ last :: rest)) =
      some skipped.length :=
    scan_append (fun other member => by simp [delims other member]) (by simpa using isOther)
  have ends : scan (fun byte => byte == delim || byte == 0) (byte :: token' ++ last :: rest) =
      some (byte :: token').length := scan_of_not_mem noNul notIn stops
  have start : (before ++ skipped ++ byte :: token' ++ last :: rest).drop before.length =
      skipped ++ (byte :: token' ++ last :: rest) := by
    rw [List.append_assoc, List.append_assoc, List.drop_left]
  have suffix : (before ++ skipped ++ byte :: token' ++ last :: rest).drop
      (before.length + skipped.length) = byte :: token' ++ last :: rest := by
    rw [← List.length_append, List.append_assoc, List.drop_left]
  have first : (before ++ skipped ++ byte :: token' ++ last :: rest)[
      before.length + skipped.length]? = some byte := by
    rw [← List.length_append, List.append_assoc, List.cons_append, getElem?_append_length]
  have final : (before ++ skipped ++ byte :: token' ++ last :: rest)[
      before.length + skipped.length + (byte :: token').length]? = some last := by
    rw [← List.length_append, ← List.length_append, getElem?_append_length]
  have cut : (before ++ skipped ++ byte :: token' ++ last :: rest).set
      (before.length + skipped.length + (byte :: token').length) 0 =
        before ++ skipped ++ byte :: token' ++ 0 :: rest := by
    rw [← List.length_append, ← List.length_append,
      List.set_append_right _ _ (Nat.le_refl _), Nat.sub_self, List.set_cons_zero]
  rw [strtokR, isStart, isBlock]
  simp only [start, skips, first, suffix, ends, final, cut, isNot, Option.bind_eq_bind,
    Option.bind_some, if_false, List.length_append]
  by_cases atEnd : last = 0
  · simp [atEnd]
  · simp [atEnd]

end Tokens

end AnglerHal.CString
