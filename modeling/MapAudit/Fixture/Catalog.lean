import MapAudit.Fixture.Basic

/-! # Built-in fixtures

    Each variant has a fixture of its own. The two bundled ones run through a
    chain of nine calls over three files, so that a mapping must lead to the
    right file as well as to the right line. The third has a single file, in
    front of whose statements a build tool puts helper code.
-/

namespace MapAudit.Fixture

/-- Text of the entry file of the `import` chain. -/
def es6Entry : String :=
  "\n    import \x7bb0\x7d from './b'\n" ++
  "    function a0() \x7b a1(\"a0\") \x7d\n" ++
  "    function a1() \x7b a2(\"a1\") \x7d\n" ++
  "    function a2() \x7b b0(\"a2\") \x7d\n" ++
  "    a0()\n  "

/-- Text of the middle file of the `import` chain. -/
def es6Middle : String :=
  "\n    import \x7bc0\x7d from './c'\n" ++
  "    export function b0() \x7b b1(\"b0\") \x7d\n" ++
  "    function b1() \x7b b2(\"b1\") \x7d\n" ++
  "    function b2() \x7b c0(\"b2\") \x7d\n  "

/-- Text of the last file of the `import` chain. -/
def es6Last : String :=
  "\n    export function c0() \x7b c1(\"c0\") \x7d\n" ++
  "    function c1() \x7b c2(\"c1\") \x7d\n" ++
  "    function c2() \x7b throw new Error(\"c2\") \x7d\n  "

/-- Text of the entry file of the `require` chain. -/
def commonjsEntry : String :=
  "\n    const \x7bb0\x7d = require('./b')\n" ++
  "    function a0() \x7b a1(\"a0\") \x7d\n" ++
  "    function a1() \x7b a2(\"a1\") \x7d\n" ++
  "    function a2() \x7b b0(\"a2\") \x7d\n" ++
  "    a0()\n  "

/-- Text of the middle file of the `require` chain. -/
def commonjsMiddle : String :=
  "\n    const \x7bc0\x7d = require('./c')\n" ++
  "    exports.b0 = function() \x7b b1(\"b0\") \x7d\n" ++
  "    function b1() \x7b b2(\"b1\") \x7d\n" ++
  "    function b2() \x7b c0(\"b2\") \x7d\n  "

/-- Text of the last file of the `require` chain. -/
def commonjsLast : String :=
  "\n    exports.c0 = function() \x7b c1(\"c0\") \x7d\n" ++
  "    function c1() \x7b c2(\"c1\") \x7d\n" ++
  "    function c2() \x7b throw new Error(\"c2\") \x7d\n  "

/-- Text of the single TypeScript file. Its exported rest pattern is what makes
    a build tool add helper code. -/
def tsEntry : String :=
  "\n    namespace Foo \x7b\n" ++
  "      export var \x7ba, ...b\x7d = foo()\n" ++
  "      console.log(a, b)\n" ++
  "    \x7d\n" ++
  "    function a0() \x7b a1(\"a0\") \x7d\n" ++
  "    function a1() \x7b a2(\"a1\") \x7d\n" ++
  "    function a2() \x7b throw new Error(\"a2\") \x7d\n" ++
  "    a0()\n  "

/-- The probes of a chain over three files. -/
def chainProbes : List Probe :=
  [⟨"a0", "a.js"⟩, ⟨"a1", "a.js"⟩, ⟨"a2", "a.js"⟩,
   ⟨"b0", "b.js"⟩, ⟨"b1", "b.js"⟩, ⟨"b2", "b.js"⟩,
   ⟨"c0", "c.js"⟩, ⟨"c1", "c.js"⟩, ⟨"c2", "c.js"⟩]

/-- The probes of the single TypeScript file. -/
def tsProbes : List Probe :=
  [⟨"a0", "a.ts"⟩, ⟨"a1", "a.ts"⟩, ⟨"a2", "a.ts"⟩]

/-- **Built-in fixture** of a variant. -/
def ofVariant : Variant → Fixture
  | .commonjs =>
    ofFiles .commonjs
      [⟨"a.js", commonjsEntry⟩, ⟨"b.js", commonjsMiddle⟩, ⟨"c.js", commonjsLast⟩] chainProbes
  | .es6 =>
    ofFiles .es6 [⟨"a.js", es6Entry⟩, ⟨"b.js", es6Middle⟩, ⟨"c.js", es6Last⟩] chainProbes
  | .ts => ofFiles .ts [⟨"a.ts", tsEntry⟩] tsProbes

end MapAudit.Fixture
