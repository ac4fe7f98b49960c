/-
# The builtin for permissions

The permissions that new files are not given, in octal digits or as letters for who has which.
-/
import BenchRoster.Shell.Builtin.Basic

namespace BenchRoster.Shell

namespace Builtin

/-- A number in octal digits. -/
def octal (n : Nat) : String :=
  String.ofList ([n / 512 % 8, n / 64 % 8, n / 8 % 8, n % 8].map fun d => Char.ofNat (48 + d))

/-- The permissions that are given, in letters. -/
def permissionLetters (mask : Nat) : String :=
  let part (who : String) (bits : Nat) : String :=
    let letter (bit : Nat) (c : String) : String := if bits &&& bit = 0 then c else ""
    who ++ "=" ++ letter 4 "r" ++ letter 2 "w" ++ letter 1 "x"
  ",".intercalate [part "u" (mask / 64 % 8), part "g" (mask / 8 % 8), part "o" (mask % 8)]

/-- Changes permissions as letters ask for it: who, how, and what. -/
def changePermissions? (mask : Nat) (text : String) : Option Nat :=
  (text.splitOn ",").foldl (fun mask? clause => do
    let mask ← mask?
    let whoOf (c : Char) : Option Nat :=
      match c with
      | 'u' => some 0o700
      | 'g' => some 0o070
      | 'o' => some 0o007
      | 'a' => some 0o777
      | _ => none
    let whatOf (c : Char) : Option Nat :=
      match c with
      | 'r' => some 0o444
      | 'w' => some 0o222
      | 'x' => some 0o111
      | _ => none
    let cs := clause.toList
    let who := cs.takeWhile fun c => (whoOf c).isSome
    match cs.drop who.length with
    | how :: what =>
      let bits ← what.foldlM (fun n c => (whatOf c).map (n ||| ·)) 0
      let people :=
        if who.isEmpty then 0o777 else who.foldl (fun n c => n ||| (whoOf c).getD 0) 0
      let given := 0o777 - mask % 0o1000
      let kept := given &&& (0o777 - people)
      match how with
      | '=' => some (0o777 - (kept ||| (bits &&& people)))
      | '+' => some (0o777 - (given ||| (bits &&& people)))
      | '-' => some (0o777 - (given &&& (0o777 - (bits &&& people))))
      | _ => none
    | [] => none) (some mask)

def umask : Builtin := fun args => do
  let (options, args) ← readOptions ['S'] [] args
  let mask := (← get).mask
  match args with
  | [] =>
    put ((if options.isEmpty then octal mask else permissionLetters mask) ++ "\n")
    return 0
  | a :: _ =>
    let digits := a.toList
    if (digits.head?.map Char.isDigit).getD false then
      if digits.all fun c => '0' ≤ c && c ≤ '7' then
        let mask := digits.foldl (fun n c => n * 8 + (c.toNat - 48)) 0
        modify fun s => { s with mask := mask % 0o1000 }
        return 0
      else failNumber a
    else
      match changePermissions? mask a with
      | some mask =>
        modify fun s => { s with mask }
        return 0
      | none => fail s!"Illegal mode: {a}"

end Builtin

end BenchRoster.Shell
