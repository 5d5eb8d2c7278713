/-!
# Fixed text of GLSL shaders

The lines that every GLSL shader starts with. `Glsl.preludeLines` holds the guarded operators;
`Glsl.libraryLines` holds the noise and wave textures, operation for operation as they are evaluated
here.
-/

namespace Heightfield.Shader.Glsl

/-- The guarded operators. -/
def preludeLines : List String := [
  "float safe_div(float a, float b) \x7b",
  "  return b == 0.0 ? 0.0 : a / b;",
  "\x7d",
  "",
  "vec3 safe_div3(vec3 a, vec3 b) \x7b",
  "  return vec3(safe_div(a.x, b.x), safe_div(a.y, b.y), safe_div(a.z, b.z));",
  "\x7d",
  "",
  "float safe_sqrt(float a) \x7b",
  "  return a < 0.0 ? 0.0 : sqrt(a);",
  "\x7d",
  "",
  "float safe_pow(float a, float b) \x7b",
  "  return a <= 0.0 ? 0.0 : pow(a, b);",
  "\x7d",
  "",
  "float floored_mod(float a, float b) \x7b",
  "  return b == 0.0 ? 0.0 : a - b * floor(a / b);",
  "\x7d",
  "",
  "vec3 safe_normalize(vec3 v) \x7b",
  "  float len = length(v);",
  "  return len < 0.000001 ? vec3(0.0) : v * (1.0 / len);",
  "\x7d"]

/-- Simplex noise and the wave texture. -/
def libraryLines : List String := [
  "vec3 mod289(vec3 x) \x7b",
  "  return x - floor(x * (1.0 / 289.0)) * 289.0;",
  "\x7d",
  "",
  "vec4 mod289(vec4 x) \x7b",
  "  return x - floor(x * (1.0 / 289.0)) * 289.0;",
  "\x7d",
  "",
  "vec4 permute(vec4 x) \x7b",
  "  return mod289(((x * 34.0) + 1.0) * x);",
  "\x7d",
  "",
  "vec4 taylorInvSqrt(vec4 r) \x7b",
  "  return 1.79284291400159 - 0.85373472095314 * r;",
  "\x7d",
  "",
  "float snoise(vec3 v) \x7b",
  "  const vec2 C = vec2(1.0 / 6.0, 1.0 / 3.0);",
  "  const vec4 D = vec4(0.0, 0.5, 1.0, 2.0);",
  "",
  "  vec3 i = floor(v + dot(v, C.yyy));",
  "  vec3 x0 = v - i + dot(i, C.xxx);",
  "",
  "  vec3 g = step(x0.yzx, x0.xyz);",
  "  vec3 l = 1.0 - g;",
  "  vec3 i1 = min(g.xyz, l.zxy);",
  "  vec3 i2 = max(g.xyz, l.zxy);",
  "",
  "  vec3 x1 = x0 - i1 + C.xxx;",
  "  vec3 x2 = x0 - i2 + C.yyy;",
  "  vec3 x3 = x0 - D.yyy;",
  "",
  "  i = mod289(i);",
  "  vec4 p = permute(permute(permute(",
  "      i.z + vec4(0.0, i1.z, i2.z, 1.0))",
  "    + i.y + vec4(0.0, i1.y, i2.y, 1.0))",
  "    + i.x + vec4(0.0, i1.x, i2.x, 1.0));",
  "",
  "  float n_ = 0.142857142857;",
  "  vec3 ns = n_ * D.wyz - D.xzx;",
  "",
  "  vec4 j = p - 49.0 * floor(p * ns.z * ns.z);",
  "  vec4 x_ = floor(j * ns.z);",
  "  vec4 y_ = floor(j - 7.0 * x_);",
  "",
  "  vec4 x = x_ * ns.x + ns.yyyy;",
  "  vec4 y = y_ * ns.x + ns.yyyy;",
  "  vec4 h = 1.0 - abs(x) - abs(y);",
  "",
  "  vec4 b0 = vec4(x.xy, y.xy);",
  "  vec4 b1 = vec4(x.zw, y.zw);",
  "  vec4 s0 = floor(b0) * 2.0 + 1.0;",
  "  vec4 s1 = floor(b1) * 2.0 + 1.0;",
  "  vec4 sh = -step(h, vec4(0.0));",
  "",
  "  vec4 a0 = b0.xzyw + s0.xzyw * sh.xxyy;",
  "  vec4 a1 = b1.xzyw + s1.xzyw * sh.zzww;",
  "",
  "  vec3 p0 = vec3(a0.xy, h.x);",
  "  vec3 p1 = vec3(a0.zw, h.y);",
  "  vec3 p2 = vec3(a1.xy, h.z);",
  "  vec3 p3 = vec3(a1.zw, h.w);",
  "",
  "  vec4 norm = taylorInvSqrt(vec4(dot(p0, p0), dot(p1, p1), dot(p2, p2), dot(p3, p3)));",
  "  p0 *= norm.x;",
  "  p1 *= norm.y;",
  "  p2 *= norm.z;",
  "  p3 *= norm.w;",
  "",
  "  vec4 m = max(0.6 - vec4(dot(x0, x0), dot(x1, x1), dot(x2, x2), dot(x3, x3)), 0.0);",
  "  m = m * m;",
  "  return 42.0 * dot(m * m, vec4(dot(p0, x0), dot(p1, x1), dot(p2, x2), dot(p3, x3)));",
  "\x7d",
  "",
  "float wave_texture(vec3 p, float phase, float scale, float distortion, int detail, float detail_scale, float roughness, int wave_type, int direction, int profile) \x7b",
  "  float coord = p.x;",
  "  if (wave_type == 1) \x7b",
  "    coord = length(p);",
  "  \x7d else if (direction == 1) \x7b",
  "    coord = p.y;",
  "  \x7d else if (direction == 2) \x7b",
  "    coord = p.z;",
  "  \x7d else if (direction == 3) \x7b",
  "    coord = (p.x + p.y + p.z) * 0.5;",
  "  \x7d",
  "",
  "  float n = coord * scale + phase;",
  "  if (distortion != 0.0) \x7b",
  "    n += distortion * snoise(p * scale);",
  "  \x7d",
  "",
  "  float amplitude = 1.0;",
  "  float frequency = 1.0;",
  "  for (int octave = 0; octave < 10; octave++) \x7b",
  "    if (octave >= detail) \x7b",
  "      break;",
  "    \x7d",
  "    amplitude *= roughness;",
  "    frequency *= detail_scale;",
  "    n += amplitude * snoise(p * (scale * frequency));",
  "  \x7d",
  "",
  "  if (profile == 1) \x7b",
  "    return fract(n);",
  "  \x7d",
  "  return 0.5 * (sin(6.283185307179586 * n) + 1.0);",
  "\x7d"]

end Heightfield.Shader.Glsl
