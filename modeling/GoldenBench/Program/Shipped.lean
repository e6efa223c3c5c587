import GoldenBench.Configuration.Basic
import GoldenBench.Files.Store

/-!
# What comes with the program

A configuration of two builds of one compiler and a few fixtures are there for when no other configuration is
named.

* `Shipped.configuration` is the configuration, `Shipped.addTo` puts the fixtures into a file tree.
-/

namespace GoldenBench.Shipped

/-- The directory of what comes with the program. -/
def directory : Key := ["usr", "share", "golden-bench"]

/-- The file that stands for the configuration. -/
def configurationPath : Path := (Key.path directory).join ⟨"harness.yaml"⟩

/-- A build of the compiler: a script in its own directory, with the usual converters. -/
def build (name : String) : SubjectSpec where
  name := name
  compiler := ⟨"node", ["bin/harness-compile.js", "--" ++ name], some ⟨"../../compiler"⟩⟩
  toBinary := ⟨⟨"wat2wasm", [], none⟩, ["--debug-names"], []⟩
  toText := ⟨⟨"wasm2wat", [], none⟩, [], ["--no-debug-names"]⟩

/-- The configuration. -/
def configuration : Configuration where
  fixturesDirectory := ⟨"fixtures"⟩
  interopDirectory := ⟨"interop"⟩
  sourceExtension := "ts"
  goldenExtension := "wat"
  interopSuffix := "test"
  smokeSource := none
  subjects := [build "sources", build "dist"]
  base := Key.path directory

/-- The fixtures: the directory and the name of each file, and its lines. -/
def fixtures : List (String × String × List String) :=
  [
    ("fixtures", "identity.ts", [
      "export function identity(x: i32): i32 \x7b", "  return x;", "\x7d"]),
    ("fixtures", "identity.wat", [
      " (export \"identity\" (func $identity/identity))",
      " (func $identity/identity (; 0 ;) (type $ii) (param $0 i32) (result i32)", "  (get_local $0)", " )"]),
    ("fixtures", "if.ts", [
      "//!\x7b\"noTreeShaking\":true\x7d", "export function ifThenElse(n: i32): bool \x7b",
      "  if (n) return true;", "  else return false;", "\x7d", "",
      "export function ifThen(n: i32): i32 \x7b", "  if (n) n = 1;", "  return n;", "\x7d"]),
    ("fixtures", "if.wat", [
      " (export \"ifThenElse\" (func $if/ifThenElse))", " (export \"ifThen\" (func $if/ifThen))",
      " (func $if/ifThenElse (; 0 ;) (type $ii) (param $0 i32) (result i32)", "  (if", "   (get_local $0)",
      "   (return", "    (i32.const 1)", "   )", "   (return", "    (i32.const 0)", "   )", "  )", " )",
      " (func $if/ifThen (; 1 ;) (type $ii) (param $0 i32) (result i32)", "  (if", "   (get_local $0)",
      "   (set_local $0", "    (i32.const 1)", "   )", "  )", "  (get_local $0)", " )"]),
    ("fixtures", "loop.ts", [
      "//!\x7b\"silent\":false\x7d", "export function sum(n: i32): i32 \x7b", "  var total = 0;",
      "  for (let i = 0; i < n; ++i) total += i;", "  return total;", "\x7d"]),
    ("fixtures", "loop.wat", [
      " (export \"sum\" (func $loop/sum))",
      " (func $loop/sum (; 0 ;) (type $ii) (param $0 i32) (result i32)", "  (local $1 i32)",
      "  (local $2 i32)", "  (block $break|0", "   (loop $repeat|0", "    (br_if $break|0",
      "     (i32.eqz", "      (i32.lt_s", "       (get_local $2)", "       (get_local $0)", "      )",
      "     )", "    )", "    (set_local $1", "     (i32.add", "      (get_local $1)",
      "      (get_local $2)", "     )", "    )", "    (set_local $2", "     (i32.add",
      "      (get_local $2)", "      (i32.const 1)", "     )", "    )", "    (br $repeat|0)", "   )",
      "  )", "  (get_local $1)", " )"]),
    ("interop", "add.test.ts", [
      "export function add(a: i32, b: i32): i32 \x7b", "  return a + b;", "\x7d"]),
    ("interop", "identity.test.ts", [
      "//!\x7b\"noAssert\":true\x7d", "export function identity(x: i32): i32 \x7b", "  return x;", "\x7d"])]

/-- A file tree with the fixtures in it. -/
def addTo (files : Store) : Store :=
  fixtures.foldl (fun files (folder, name, lines) =>
    let content := String.join (lines.map (· ++ "\n"))
    files.plant (directory ++ [folder, name]) (.file content.toUTF8)) files

end GoldenBench.Shipped
