import AddRate.Kernel.Shader

/-!
# Recognised shaders

A simulated device accepts the rate shaders and nothing else. It recognises a shader text by
reading off the size of its workgroups and comparing it with the shader for that size.
-/

namespace AddRate.Gpu

/-- A shader text that was recognised. -/
structure CompiledShader where
  requires : Option Capability
  localSize : Nat

/-- The text of a shader before the size of its workgroups. -/
def textBeforeSize (placeholder : List Char) : List Char → List Char
  | [] => []
  | c :: rest =>
    if placeholder.isPrefixOf (c :: rest) then [] else c :: textBeforeSize placeholder rest

/-- Recognise a text as one shader. -/
def compileAs? (source : String) (shader : Shader) : Option CompiledShader :=
  let start := textBeforeSize workgroupSizePlaceholder.toList shader.source.toList
  let size := (source.toList.drop start.length).takeWhile Char.isDigit
  if Text.substitute workgroupSizePlaceholder (String.ofList size) shader.source = source then
    some { requires := shader.requires, localSize := Nat.ofDigitChars 10 size 0 }
  else
    none

/-- Recognise a text as any of the rate shaders. -/
def compile? (source : String) : Option CompiledShader :=
  Shader.all.findSome? (compileAs? source)

end AddRate.Gpu
