/-
# The fixed workload

Every backend transforms the same small module of source code, byte for byte, so that
differences in time come from the backends alone.
-/
import BenchRoster.Checksum
import BenchRoster.Text.Lines
import BenchRoster.Text.Utf8

namespace BenchRoster

/-- A named source text that backends transform. -/
structure Workload where
  name : String
  /-- The file name given to backends that read the source from their standard input. -/
  filename : String
  source : String

namespace Workload

def bytes (w : Workload) : List UInt8 := Text.utf8 w.source

/-- The size in bytes. -/
def size (w : Workload) : Nat := w.bytes.length

def isEmpty (w : Workload) : Bool := w.bytes.isEmpty

def lines (w : Workload) : List String := Text.lines w.source

/-- Confirms identical input across runs. -/
def checksum (w : Workload) : UInt32 := crc32 w.bytes

/-- The lines of the fixed source; the first one is empty. -/
def fixedLines : List String := [
  "",
  "'use strict';",
  "",
  "class Foo \x7b",
  "  foo() \x7b\x7d",
  "\x7d",
  "",
  "class Bar extends Foo \x7b",
  "  foo() \x7b",
  "    super.foo();",
  "  \x7d",
  "  async bar() \x7b\x7d",
  "\x7d",
  "",
  "class Baz extends Bar \x7b",
  "  foo() \x7b",
  "    super.foo();",
  "    this.baz()",
  "  \x7d",
  "  baz() \x7b",
  "",
  "  \x7d",
  "  async other() \x7b",
  "    this.baz()",
  "    await super.bar()",
  "  \x7d",
  "\x7d",
  "",
  "/**",
  " * Extract red color out of a color integer:",
  " *",
  " * 0x00DEAD -> 0x00",
  " *",
  " * @param  \x7bNumber\x7d color",
  " * @return \x7bNumber\x7d",
  " */",
  "function red( color )",
  "\x7b",
  "    let foo = 3.14;",
  "    return color >> 16;",
  "\x7d",
  "",
  "/**",
  " * Extract green out of a color integer:",
  " *",
  " * 0x00DEAD -> 0xDE",
  " *",
  " * @param  \x7bNumber\x7d color",
  " * @return \x7bNumber\x7d",
  " */",
  "function green( color )",
  "\x7b",
  "    return ( color >> 8 ) & 0xFF;",
  "\x7d",
  "",
  "/**",
  " * Extract blue color out of a color integer:",
  " *",
  " * 0x00DEAD -> 0xAD",
  " *",
  " * @param  \x7bNumber\x7d color",
  " * @return \x7bNumber\x7d",
  " */",
  "function blue( color )",
  "\x7b",
  "    return color & 0xFF;",
  "\x7d",
  "",
  "/**",
  " * Converts an integer containing a color such as 0x00DEAD to a hex",
  " * string, such as '#00DEAD';",
  " *",
  " * @param  \x7bNumber\x7d int",
  " * @return \x7bString\x7d",
  " */",
  "function intToHex( int )",
  "\x7b",
  "    const mask = '#000000';",
  "",
  "    const hex = int.toString( 16 );",
  "",
  "    return mask.substring( 0, 7 - hex.length ) + hex;",
  "\x7d",
  "",
  "/**",
  " * Converts a hex string containing a color such as '#00DEAD' to",
  " * an integer, such as 0x00DEAD;",
  " *",
  " * @param  \x7bNumber\x7d num",
  " * @return \x7bString\x7d",
  " */",
  "function hexToInt( hex )",
  "\x7b",
  "    return parseInt( hex.substring( 1 ), 16 );",
  "\x7d",
  "",
  "module.exports = \x7b",
  "    red,",
  "    green,",
  "    blue,",
  "    intToHex,",
  "    hexToInt,",
  "\x7d;"]

/-- The workload of every comparison. -/
def fixed : Workload where
  name := "color-utils"
  filename := "input.js"
  source := String.join (fixedLines.map (· ++ "\n"))

end Workload

end BenchRoster
