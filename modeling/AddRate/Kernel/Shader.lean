import AddRate.Kernel.Basic

/-!
# Rate shaders

The compute shaders that the kernels run. All of them load four vectors, derive four more from
them, and repeat eight additions in a loop whose result has no closed form; what differs is the
element type, the derivation and the additions. The shader text is built from these parts.
-/

namespace AddRate

/-- The parts in which one rate shader differs from another. -/
structure Shader where
  /-- Comment lines that say what is counted. -/
  summary : List String
  input : String
  result : String
  /-- The capability without which a device refuses the shader. -/
  requires : Option Capability := none
  /-- Lines of a function that the additions call. -/
  helper : List String := []
  /-- The name of the loaded vectors, before their number. -/
  loaded : String := "v"
  /-- Definitions of the four derived vectors. -/
  derived : List String
  /-- The eight statements of the loop. -/
  additions : List String
  /-- What is stored in the end. -/
  stored : String

namespace Shader

/-- The tag with which every shader text starts, put together from its words. -/
def tagLine : String :=
  "// " ++ "-".intercalate ["SPDX", "License", "Identifier"] ++ ": "
    ++ "-".intercalate ["AGPL", "3.0", "only"]

/-- The block of parameters, with its padding. -/
def paramsLines : List String :=
  ["struct Params \x7b",
    "    iterations: u32,",
    "    thread_count: u32,",
    "    _pad0: u32,",
    "    _pad1: u32,",
    "\x7d"]

/-- The declarations of input, parameters and result. -/
def bindingLines (shader : Shader) : List String :=
  ["@group(0) @binding(0) var<storage, read> input: array<" ++ shader.input ++ ">;",
    "@group(0) @binding(1) var<uniform> params: Params;",
    "@group(0) @binding(2) var<storage, read_write> result: array<" ++ shader.result ++ ">;"]

/-- The entry point up to the index of the work-item; surplus work-items return. -/
def entryLines : List String :=
  ["@compute @workgroup_size(" ++ workgroupSizePlaceholder ++ ")",
    "fn main(",
    "    @builtin(global_invocation_id) gid: vec3<u32>,",
    "    @builtin(local_invocation_id) lid: vec3<u32>,",
    "    @builtin(num_workgroups) nwg: vec3<u32>,",
    ") \x7b",
    "    let i = gid.x + gid.y * nwg.x * " ++ workgroupSizePlaceholder ++ "u;",
    "    if (i >= params.thread_count) \x7b return; \x7d"]

def vectorLines (shader : Shader) : List String :=
  ["    let base = lid.x * 4u;",
    "    var " ++ shader.loaded ++ "0 = input[base];",
    "    var " ++ shader.loaded ++ "1 = input[base + 1u];",
    "    var " ++ shader.loaded ++ "2 = input[base + 2u];",
    "    var " ++ shader.loaded ++ "3 = input[base + 3u];"]
    ++ shader.derived.map ("    var " ++ ·)

def loopLines (shader : Shader) : List String :=
  "    for (var j = 0u; j < params.iterations; j = j + 1u) \x7b"
    :: shader.additions.map ("        " ++ ·) ++ ["    \x7d"]

def lines (shader : Shader) : List String :=
  tagLine :: "//" :: shader.summary.map ("// " ++ ·) ++ [""]
    ++ paramsLines ++ [""]
    ++ shader.bindingLines ++ [""]
    ++ (if shader.helper.isEmpty then [] else shader.helper ++ [""])
    ++ entryLines ++ [""]
    ++ shader.vectorLines ++ [""]
    ++ shader.loopLines ++ [""]
    ++ ["    result[i] = " ++ shader.stored ++ ";", "\x7d"]

/-- The shader text, every line ended. -/
def source (shader : Shader) : String :=
  String.join (shader.lines.map (· ++ "\n"))

/-! ## Parts that several shaders share -/

/-- The derived vectors `v4` to `v7`, as swizzles of the loaded ones. -/
def swizzled (swizzle : String) : List String :=
  [("v4", "v0"), ("v5", "v1"), ("v6", "v2"), ("v7", "v3")].map fun (derived, loaded) =>
    derived ++ " = " ++ loaded ++ "." ++ swizzle ++ ";"

/-- Two vectors, each added to the other in turn. -/
def bothWays (add : String → String → String) (left right : String) : List String :=
  [left ++ " = " ++ add left right ++ ";", right ++ " = " ++ add right left ++ ";"]

/-- The additions of four independent pairs of vectors. -/
def pairAdditions (add : String → String → String) : List String :=
  bothWays add "v0" "v1" ++ bothWays add "v2" "v3" ++ bothWays add "v4" "v5"
    ++ bothWays add "v6" "v7"

/-- Addition by the operator of the shading language. -/
def plus (left right : String) : String :=
  left ++ " + " ++ right

/-- Addition by a call. -/
def add64 (left right : String) : String :=
  "add64(" ++ left ++ ", " ++ right ++ ")"

def plainSum : String :=
  " + ".intercalate ["v0", "v1", "v2", "v3", "v4", "v5", "v6", "v7"]

/-! ## The shaders -/

def int32 : Shader where
  summary := [
    "int32_add_rate_test: 8 vec4<u32> adds per iteration (32 scalar adds)",
    "plus the loop increment. Four independent add pairs keep the ALUs busy",
    "without a closed form the compiler could fold."]
  input := "vec4<u32>"
  result := "vec4<u32>"
  derived := swizzled "wzyx"
  additions := pairAdditions plus
  stored := plainSum

def fp32 : Shader where
  summary := ["fp32_add_rate_test: 8 vec4<f32> adds per iteration (32 scalar adds)."]
  input := "vec4<f32>"
  result := "vec4<f32>"
  derived := swizzled "wzyx"
  additions := pairAdditions plus
  stored := plainSum

def mixed : Shader where
  summary := [
    "mix_fp32_int32_add_rate_test: 4 vec4<f32> adds and 4 vec4<u32> adds per",
    "iteration (32 scalar adds) plus the loop increment. The integer lanes",
    "are the fp32 workload reinterpreted."]
  input := "vec4<f32>"
  result := "vec4<u32>"
  loaded := "f"
  derived := [("u0", "f0"), ("u1", "f1"), ("u2", "f2"), ("u3", "f3")].map fun (derived, loaded) =>
    derived ++ " = bitcast<vec4<u32>>(" ++ loaded ++ ".wzyx);"
  additions := [("f0", "f1"), ("u0", "u1"), ("f1", "f0"), ("u1", "u0"),
      ("f2", "f3"), ("u2", "u3"), ("f3", "f2"), ("u3", "u2")].map fun (left, right) =>
    left ++ " = " ++ plus left right ++ ";"
  stored := "bitcast<vec4<u32>>(f0 + f1 + f2 + f3) ^ (u0 + u1 + u2 + u3)"

/-- 64-bit additions made of 32-bit ones, for every device. -/
def int64Portable : Shader where
  summary := [
    "int64_add_rate_test (portable): each vec4<u32> holds two little-endian",
    "u64 values as (lo, hi, lo, hi). add64 is one pair of 64-bit adds with",
    "carry; 8 add64 per iteration = 16 scalar 64-bit adds."]
  input := "vec4<u32>"
  result := "vec4<u32>"
  helper := [
    "fn add64(a: vec4<u32>, b: vec4<u32>) -> vec4<u32> \x7b",
    "    let lo = a.xz + b.xz;",
    "    let carry = select(vec2<u32>(0u), vec2<u32>(1u), lo < a.xz);",
    "    let hi = a.yw + b.yw + carry;",
    "    return vec4<u32>(lo.x, hi.x, lo.y, hi.y);",
    "\x7d"]
  derived := swizzled "zwxy"
  additions := pairAdditions add64
  stored :=
    add64 (add64 (add64 "v0" "v1") (add64 "v2" "v3")) (add64 (add64 "v4" "v5") (add64 "v6" "v7"))

def int64Native : Shader where
  summary := [
    "int64_add_rate_test (native, requires SHADER_INT64): 8 vec2<u64> adds",
    "per iteration (16 scalar 64-bit adds)."]
  input := "vec2<u64>"
  result := "vec2<u64>"
  requires := some .int64
  derived := swizzled "yx"
  additions := pairAdditions plus
  stored := plainSum

def fp64 : Shader where
  summary := [
    "fp64_add_rate_test (requires SHADER_F64): 8 vec2<f64> adds per",
    "iteration (16 scalar adds)."]
  input := "vec2<f64>"
  result := "vec2<f64>"
  requires := some .fp64
  derived := swizzled "yx"
  additions := pairAdditions plus
  stored := plainSum

def all : List Shader :=
  [int32, fp32, mixed, int64Portable, int64Native, fp64]

end Shader

end AddRate
