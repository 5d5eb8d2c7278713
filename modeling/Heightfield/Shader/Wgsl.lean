/-!
# Fixed text of WGSL shaders

The lines that every WGSL shader starts with. `Wgsl.preludeLines` declares the uniforms, the vertex stage
and the guarded operators; `Wgsl.libraryLines` holds the noise and wave textures, operation for operation
as they are evaluated here.
-/

namespace Heightfield.Shader.Wgsl

/-- Uniforms, the vertex stage and the guarded operators. -/
def preludeLines : List String := [
  "struct Globals \x7b",
  "  time: f32,",
  "  resolution: f32,",
  "  world_size: vec2<f32>,",
  "\x7d",
  "",
  "@group(0) @binding(0) var<uniform> globals: Globals;",
  "",
  "struct VertexOutput \x7b",
  "  @builtin(position) position: vec4<f32>,",
  "\x7d",
  "",
  "@vertex",
  "fn vs_main(@builtin(vertex_index) vertex_index: u32) -> VertexOutput \x7b",
  "  var positions = array<vec2<f32>, 3>(",
  "    vec2<f32>(-1.0, -3.0),",
  "    vec2<f32>(-1.0, 1.0),",
  "    vec2<f32>(3.0, 1.0)",
  "  );",
  "",
  "  var out: VertexOutput;",
  "  out.position = vec4<f32>(positions[vertex_index], 0.0, 1.0);",
  "  return out;",
  "\x7d",
  "",
  "fn safe_div(a: f32, b: f32) -> f32 \x7b",
  "  if (b == 0.0) \x7b",
  "    return 0.0;",
  "  \x7d",
  "  return a / b;",
  "\x7d",
  "",
  "fn safe_div3(a: vec3<f32>, b: vec3<f32>) -> vec3<f32> \x7b",
  "  return vec3<f32>(safe_div(a.x, b.x), safe_div(a.y, b.y), safe_div(a.z, b.z));",
  "\x7d",
  "",
  "fn safe_sqrt(a: f32) -> f32 \x7b",
  "  if (a < 0.0) \x7b",
  "    return 0.0;",
  "  \x7d",
  "  return sqrt(a);",
  "\x7d",
  "",
  "fn safe_pow(a: f32, b: f32) -> f32 \x7b",
  "  if (a <= 0.0) \x7b",
  "    return 0.0;",
  "  \x7d",
  "  return pow(a, b);",
  "\x7d",
  "",
  "fn floored_mod(a: f32, b: f32) -> f32 \x7b",
  "  if (b == 0.0) \x7b",
  "    return 0.0;",
  "  \x7d",
  "  return a - b * floor(a / b);",
  "\x7d",
  "",
  "fn safe_normalize(v: vec3<f32>) -> vec3<f32> \x7b",
  "  let len = length(v);",
  "  if (len < 0.000001) \x7b",
  "    return vec3<f32>(0.0);",
  "  \x7d",
  "  return v * (1.0 / len);",
  "\x7d"]

/-- Simplex noise and the wave texture. -/
def libraryLines : List String := [
  "fn mod289_3(x: vec3<f32>) -> vec3<f32> \x7b",
  "  return x - floor(x * (1.0 / 289.0)) * 289.0;",
  "\x7d",
  "",
  "fn mod289_4(x: vec4<f32>) -> vec4<f32> \x7b",
  "  return x - floor(x * (1.0 / 289.0)) * 289.0;",
  "\x7d",
  "",
  "fn permute4(x: vec4<f32>) -> vec4<f32> \x7b",
  "  return mod289_4(((x * 34.0) + 1.0) * x);",
  "\x7d",
  "",
  "fn taylor_inv_sqrt4(r: vec4<f32>) -> vec4<f32> \x7b",
  "  return 1.79284291400159 - 0.85373472095314 * r;",
  "\x7d",
  "",
  "fn snoise(v: vec3<f32>) -> f32 \x7b",
  "  let C = vec2<f32>(1.0 / 6.0, 1.0 / 3.0);",
  "  let D = vec4<f32>(0.0, 0.5, 1.0, 2.0);",
  "",
  "  var i = floor(v + dot(v, C.yyy));",
  "  let x0 = v - i + dot(i, C.xxx);",
  "",
  "  let g = step(x0.yzx, x0.xyz);",
  "  let l = 1.0 - g;",
  "  let i1 = min(g.xyz, l.zxy);",
  "  let i2 = max(g.xyz, l.zxy);",
  "",
  "  let x1 = x0 - i1 + C.xxx;",
  "  let x2 = x0 - i2 + C.yyy;",
  "  let x3 = x0 - D.yyy;",
  "",
  "  i = mod289_3(i);",
  "  let p = permute4(permute4(permute4(",
  "      i.z + vec4<f32>(0.0, i1.z, i2.z, 1.0))",
  "    + i.y + vec4<f32>(0.0, i1.y, i2.y, 1.0))",
  "    + i.x + vec4<f32>(0.0, i1.x, i2.x, 1.0));",
  "",
  "  let n_ = 0.142857142857;",
  "  let ns = n_ * D.wyz - D.xzx;",
  "",
  "  let j = p - 49.0 * floor(p * ns.z * ns.z);",
  "  let x_ = floor(j * ns.z);",
  "  let y_ = floor(j - 7.0 * x_);",
  "",
  "  let x = x_ * ns.x + ns.yyyy;",
  "  let y = y_ * ns.x + ns.yyyy;",
  "  let h = 1.0 - abs(x) - abs(y);",
  "",
  "  let b0 = vec4<f32>(x.xy, y.xy);",
  "  let b1 = vec4<f32>(x.zw, y.zw);",
  "  let s0 = floor(b0) * 2.0 + 1.0;",
  "  let s1 = floor(b1) * 2.0 + 1.0;",
  "  let sh = -step(h, vec4<f32>(0.0));",
  "",
  "  let a0 = b0.xzyw + s0.xzyw * sh.xxyy;",
  "  let a1 = b1.xzyw + s1.xzyw * sh.zzww;",
  "",
  "  var p0 = vec3<f32>(a0.xy, h.x);",
  "  var p1 = vec3<f32>(a0.zw, h.y);",
  "  var p2 = vec3<f32>(a1.xy, h.z);",
  "  var p3 = vec3<f32>(a1.zw, h.w);",
  "",
  "  let norm = taylor_inv_sqrt4(vec4<f32>(dot(p0, p0), dot(p1, p1), dot(p2, p2), dot(p3, p3)));",
  "  p0 = p0 * norm.x;",
  "  p1 = p1 * norm.y;",
  "  p2 = p2 * norm.z;",
  "  p3 = p3 * norm.w;",
  "",
  "  var m = max(0.6 - vec4<f32>(dot(x0, x0), dot(x1, x1), dot(x2, x2), dot(x3, x3)), vec4<f32>(0.0));",
  "  m = m * m;",
  "  return 42.0 * dot(m * m, vec4<f32>(dot(p0, x0), dot(p1, x1), dot(p2, x2), dot(p3, x3)));",
  "\x7d",
  "",
  "fn wave_texture(p: vec3<f32>, phase: f32, scale: f32, distortion: f32, detail: i32, detail_scale: f32, roughness: f32, wave_type: i32, direction: i32, profile: i32) -> f32 \x7b",
  "  var coord = p.x;",
  "  if (wave_type == 1) \x7b",
  "    coord = length(p);",
  "  \x7d else if (direction == 1) \x7b",
  "    coord = p.y;",
  "  \x7d else if (direction == 2) \x7b",
  "    coord = p.z;",
  "  \x7d else if (direction == 3) \x7b",
  "    coord = (p.x + p.y + p.z) * 0.5;",
  "  \x7d",
  "",
  "  var n = coord * scale + phase;",
  "  if (distortion != 0.0) \x7b",
  "    n = n + distortion * snoise(p * scale);",
  "  \x7d",
  "",
  "  var amplitude = 1.0;",
  "  var frequency = 1.0;",
  "  for (var octave = 0; octave < 10; octave = octave + 1) \x7b",
  "    if (octave >= detail) \x7b",
  "      break;",
  "    \x7d",
  "    amplitude = amplitude * roughness;",
  "    frequency = frequency * detail_scale;",
  "    n = n + amplitude * snoise(p * (scale * frequency));",
  "  \x7d",
  "",
  "  if (profile == 1) \x7b",
  "    return fract(n);",
  "  \x7d",
  "  return 0.5 * (sin(6.283185307179586 * n) + 1.0);",
  "\x7d"]

end Heightfield.Shader.Wgsl
