import Mathlib.Algebra.GroupWithZero.Nat
import Porter.Go.Net

/-!
# Dotted addresses as text

The writing side of IPv4 addresses and networks, and the part of `fmt.Sscanf` that reads numbers out
of them.
-/
namespace Porter.Go

def digits (n : Nat) : List Char := (toString n).toList

variable (a b c d : Nat)

def dotted : String :=
  toString a ++ "." ++ toString b ++ "." ++ toString c ++ "." ++ toString d

def quad : IP := [UInt8.ofNat a, UInt8.ofNat b, UInt8.ofNat c, UInt8.ofNat d]

theorem digits_eq (n : Nat) : digits n = Nat.toDigits 10 n := by
  simp [digits, toString, Nat.repr]

variable {n : Nat}

theorem isDigit_of_mem_digits {c : Char} (member : c ∈ digits n) :
    c.isDigit = true := by
  have listed : c ∈ Nat.toDigits 10 n := by rwa [digits_eq] at member
  exact Nat.isDigit_of_mem_toDigits (by decide) (by decide) listed

theorem ne_of_mem_digits {c : Char} (member : c ∈ digits n) (other : Char)
    (sign : other.isDigit = false) : c ≠ other := by
  intro same
  have digit := isDigit_of_mem_digits member
  rw [same, sign] at digit
  cases digit

theorem octet_digits (small : n ≤ 255) : octet (digits n) = some (UInt8.ofNat n) := by
  have each : ∀ n : Fin 256, octet (Nat.toDigits 10 n.val) = some (UInt8.ofNat n.val) := by
    decide +kernel
  rw [digits_eq]
  exact each ⟨n, Nat.lt_succ_of_le small⟩

theorem decimal_digits (small : n ≤ 255) :
    digits n ≠ [] ∧ decimal (digits n) = n := by
  have each : ∀ n : Fin 256, Nat.toDigits 10 n.val ≠ [] ∧
      decimal (Nat.toDigits 10 n.val) = n.val := by decide +kernel
  rw [digits_eq]
  exact each ⟨n, Nat.lt_succ_of_le small⟩

theorem toList_dotted :
    (dotted a b c d).toList = ['.'].intercalate [digits a, digits b, digits c, digits d] := by
  simp [dotted, digits, List.intercalate, List.intersperse]

theorem notMem_dotted (sign : Char) (letter : sign.isDigit = false) (apart : sign ≠ '.') :
    sign ∉ (dotted a b c d).toList := by
  have absent : ∀ n, sign ∉ digits n := fun n member => ne_of_mem_digits member sign letter rfl
  simp [dotted, digits] at absent ⊢
  simp [absent, apart]

theorem parseIPv4_dotted {a b c d : Nat} (ha : a ≤ 255) (hb : b ≤ 255) (hc : c ≤ 255)
    (hd : d ≤ 255) : parseIPv4 (dotted a b c d).toList = some (quad a b c d) := by
  have apart : ∀ field ∈ [digits a, digits b, digits c, digits d], '.' ∉ field := by
    intro field member dot
    simp only [List.mem_cons, List.not_mem_nil, or_false] at member
    rcases member with same | same | same | same <;>
    · rw [same] at dot
      exact ne_of_mem_digits dot '.' (by decide) rfl
  have fields : (dotted a b c d).toList.splitOn '.' =
      [digits a, digits b, digits c, digits d] := by
    rw [toList_dotted]
    exact List.splitOn_intercalate '.' apart (List.cons_ne_nil _ _)
  unfold parseIPv4
  rw [fields]
  simp only [octet_digits ha, octet_digits hb, octet_digits hc, octet_digits hd]
  rfl

theorem find_dotted : (dotted a b c d).toList.find? (fun c => c = '.' || c = ':') = some '.' := by
  have none : (digits a).find? (fun c => c = '.' || c = ':') = none := by
    rw [List.find?_eq_none]
    intro c member
    have dot := ne_of_mem_digits member '.' (by decide)
    have colon := ne_of_mem_digits member ':' (by decide)
    simp [dot, colon]
  simp only [dotted, String.toList_append, List.append_assoc, List.find?_append]
  unfold digits at none
  rw [none]
  rfl

theorem parseAddr_dotted {a b c d : Nat} (ha : a ≤ 255) (hb : b ≤ 255) (hc : c ≤ 255)
    (hd : d ≤ 255) : parseAddr (dotted a b c d).toList = some (quad a b c d) := by
  unfold parseAddr
  rw [if_neg (notMem_dotted a b c d '%' (by decide) (by decide)), find_dotted]
  exact parseIPv4_dotted ha hb hc hd

theorem ofNat_inj {m : Nat} (hm : m ≤ 255) (hn : n ≤ 255) (same : UInt8.ofNat m = UInt8.ofNat n) :
    m = n := by
  have values := congrArg UInt8.toNat same
  simp only [UInt8.toNat_ofNat'] at values
  omega

theorem quad_inj {a b c d a' b' c' d' : Nat} (small : a ≤ 255 ∧ b ≤ 255 ∧ c ≤ 255 ∧ d ≤ 255)
    (small' : a' ≤ 255 ∧ b' ≤ 255 ∧ c' ≤ 255 ∧ d' ≤ 255) (same : quad a b c d = quad a' b' c' d') :
    a = a' ∧ b = b' ∧ c = c' ∧ d = d' := by
  simp only [quad, List.cons.injEq, and_true] at same
  exact ⟨ofNat_inj small.1 small'.1 same.1, ofNat_inj small.2.1 small'.2.1 same.2.1,
    ofNat_inj small.2.2.1 small'.2.2.1 same.2.2.1, ofNat_inj small.2.2.2 small'.2.2.2 same.2.2.2⟩

def maskLength (mask : List UInt8) : Nat :=
  (mask.map (fun byte => ((List.range 8).filter (fun i => byte.toNat.testBit i)).length)).sum

def IPNet.text (network : IPNet) : String :=
  match to4 network.ip with
  | some [a, b, c, d] =>
    dotted a.toNat b.toNat c.toNat d.toNat ++ "/" ++ toString (maskLength network.mask)
  | _ => "<nil>"

def IPNet.broadcast (network : IPNet) : IP :=
  List.zipWith (fun byte mask => byte ||| ~~~mask) network.ip network.mask

theorem contains_of_length {ip guest : IP} {mask : List UInt8} (network : ip.length = 4)
    (bytes : mask.length = 4) (address : guest.length = 4) :
    IPNet.contains ⟨ip, mask⟩ guest = decide (masked ip mask = masked guest mask) := by
  simp [IPNet.contains, to4, network, bytes, address]

theorem prefixLength_digits (small : n ≤ 32) : prefixLength (digits n) = some n := by
  have each : ∀ n : Fin 33, prefixLength (Nat.toDigits 10 n.val) = some n.val := by decide +kernel
  rw [digits_eq]
  exact each ⟨n, Nat.lt_succ_of_le small⟩

theorem ne_slash_of_mem_dotted : ∀ sign ∈ (dotted a b c d).toList, decide (sign ≠ '/') = true := by
  intro sign member
  have absent := notMem_dotted a b c d '/' (by decide) (by decide)
  exact decide_eq_true (fun same => absent (same ▸ member))

theorem takeWhile_network (ones : Nat) :
    ((dotted a b c d ++ "/" ++ toString ones).toList.takeWhile (· ≠ '/')) =
      (dotted a b c d).toList := by
  rw [String.toList_append, String.toList_append, List.append_assoc,
    List.takeWhile_append_of_pos (ne_slash_of_mem_dotted a b c d)]
  simp

theorem dropWhile_network (ones : Nat) :
    ((dotted a b c d ++ "/" ++ toString ones).toList.dropWhile (· ≠ '/')) = '/' :: digits ones := by
  rw [String.toList_append, String.toList_append, List.append_assoc,
    List.dropWhile_append_of_pos (ne_slash_of_mem_dotted a b c d)]
  simp [digits]

theorem parseCIDR_dotted {a b c d ones : Nat} (ha : a ≤ 255) (hb : b ≤ 255) (hc : c ≤ 255)
    (hd : d ≤ 255) (short : ones ≤ 32) :
    parseCIDR (dotted a b c d ++ "/" ++ toString ones) =
      some ⟨masked (quad a b c d) (cidrMask ones 4), cidrMask ones 4⟩ := by
  have slash : '/' ∈ (dotted a b c d ++ "/" ++ toString ones).toList := by simp
  unfold parseCIDR
  simp only [takeWhile_network, dropWhile_network]
  rw [if_neg (not_not.mpr slash), parseAddr_dotted ha hb hc hd]
  simp only [List.drop_succ_cons, List.drop_zero, prefixLength_digits short]
  have fits : ones ≤ 8 * (quad a b c d).length := short
  simp [fits]
  exact ⟨rfl, rfl⟩

theorem parseIPv4_of_slash {text : List Char} (slash : '/' ∈ text) : parseIPv4 text = none := by
  have digits : ∀ field byte, octet field = some byte → '/' ∉ field := by
    intro field byte read member
    unfold octet at read
    split at read
    · rename_i checked
      exact absurd (List.all_eq_true.mp checked.2.1 '/' member) (by decide)
    · cases read
  unfold parseIPv4
  split
  · rename_i a b c d fields
    have text_eq : text = ['.'].intercalate [a, b, c, d] := by
      rw [← fields, List.intercalate_splitOn]
    have within : '/' ∈ a ∨ '/' ∈ b ∨ '/' ∈ c ∨ '/' ∈ d := by
      rw [text_eq] at slash
      simpa [List.intercalate] using slash
    cases ha : octet a <;> cases hb : octet b <;> cases hc : octet c <;> cases hd : octet d <;>
      first | rfl | skip
    simp [digits _ _ ha, digits _ _ hb, digits _ _ hc, digits _ _ hd] at within
  · rfl

theorem parseIP_network (ones : String) : parseIP (dotted a b c d ++ "/" ++ ones) = none := by
  have separator : (dotted a b c d ++ "/" ++ ones).toList.find? (fun c => c = '.' || c = ':') =
      some '.' := by
    simp only [String.toList_append, List.find?_append, find_dotted, Option.some_or]
  have refused : parseIPv4 (dotted a b c d ++ "/" ++ ones).toList = none :=
    parseIPv4_of_slash (by simp)
  unfold parseIP parseAddr
  rw [separator]
  simp only [refused, ite_self, Option.map_none]

inductive Directive where
  | literal (c : Char)
  | int

/-- `fmt.Sscanf` for such formats, on texts without blanks and signs: the numbers read. -/
def sscanf : List Directive → List Char → Except String (List Nat)
  | [], _ => .ok []
  | _ :: _, [] => .error "unexpected EOF"
  | .literal c :: format, next :: text =>
    if c = next then sscanf format text else .error "input does not match format"
  | .int :: format, text =>
    let number := text.takeWhile Char.isDigit
    if number = [] then .error "expected integer"
    else (sscanf format (text.drop number.length)).map (decimal number :: ·)

theorem sscanf_literals (literals : List Char) (format : List Directive) (text : List Char) :
    sscanf (literals.map .literal ++ format) (literals ++ text) = sscanf format text := by
  induction literals with
  | nil => rfl
  | cons c rest recurse =>
    rw [List.map_cons, List.cons_append, List.cons_append, sscanf, if_pos rfl]
    exact recurse

theorem sscanf_digits (small : n ≤ 255) (format : List Directive) (sign : Char)
    (text : List Char) (letter : sign.isDigit = false) :
    sscanf (.int :: format) (digits n ++ sign :: text) =
      (sscanf format (sign :: text)).map (n :: ·) := by
  have ⟨written, value⟩ := decimal_digits small
  have number : (digits n ++ sign :: text).takeWhile Char.isDigit = digits n := by
    rw [List.takeWhile_append_of_pos (fun c member => isDigit_of_mem_digits member)]
    simp [letter]
  cases shape : digits n ++ sign :: text with
  | nil => simp at shape
  | cons first rest =>
    rw [sscanf, ← shape, number, if_neg written, List.drop_left, value]
    simp

end Porter.Go
