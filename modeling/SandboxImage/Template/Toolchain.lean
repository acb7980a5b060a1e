import SandboxImage.Recipe

/-!
# The toolchain template

The template that is used where no template file is found: a compiler with its tools on a plain
system.
-/

namespace SandboxImage.Template

/-- The search path, spelled out in full, because a reference to the present one would be baked in
as it stands. -/
def toolchainPath : String :=
  "/usr/local/cargo/bin:/usr/local/sbin:/usr/local/bin:/usr/sbin:/usr/bin:/sbin:/bin"

/-- The variables of the toolchain, when it is built and when it runs. -/
def toolchainEnv : EnvTable :=
  .ofList
    [("RUSTUP_HOME", "/usr/local/rustup"), ("CARGO_HOME", "/usr/local/cargo"),
     ("PATH", toolchainPath)]

/-- The template of the toolchain. -/
def toolchain : Template where
  name := "rust-toolchain"
  recipe :=
    { base := "docker.io/library/ubuntu:22.04"
      user := "root"
      env := toolchainEnv
      steps :=
        ["apt-get update && DEBIAN_FRONTEND=noninteractive apt-get install -y " ++
            "--no-install-recommends build-essential ca-certificates curl git pkg-config " ++
            "libssl-dev && rm -rf /var/lib/apt/lists/*",
          "curl --proto '=https' --tlsv1.2 -sSf https://sh.rustup.rs | sh -s -- -y " ++
            "--no-modify-path --profile minimal --default-toolchain stable",
          "rustup component add clippy rustfmt",
          "chmod -R a+w /usr/local/rustup /usr/local/cargo"] }
  capacity := {}
  plan :=
    { env := toolchainEnv
      checks :=
        [⟨"rustc", "rustc --version"⟩, ⟨"cargo", "cargo --version"⟩,
          ⟨"rustup", "rustup --version"⟩, ⟨"clippy", "cargo clippy --version"⟩,
          ⟨"rustfmt", "cargo fmt --version"⟩, ⟨"git", "git --version"⟩]
      smoke := some ⟨"hello world",
        "cd /tmp && rm -rf smoke && cargo new --quiet smoke && cd smoke && cargo run --quiet"⟩ }

end SandboxImage.Template
