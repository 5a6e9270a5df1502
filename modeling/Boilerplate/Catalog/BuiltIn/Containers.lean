import Boilerplate.Catalog.BuiltIn.SharedFields

/-!
# Containers

Definitions for container images.
-/

namespace Boilerplate.BuiltIn

def nodeDockerfile : String := unlines [
  "# Build stage",
  "FROM node:<%= nodeVersion %>-alpine AS builder",
  "",
  "# Set working directory",
  "WORKDIR /app",
  "",
  "# Copy package files",
  "COPY package*.json ./",
  "<% if packageManager == \"yarn\" %>",
  "COPY yarn.lock ./",
  "<% elif packageManager == \"pnpm\" %>",
  "COPY pnpm-lock.yaml ./",
  "<% endif %>",
  "",
  "# Install dependencies",
  "<% if packageManager == \"npm\" %>",
  "RUN npm ci && npm cache clean --force",
  "<% elif packageManager == \"yarn\" %>",
  "RUN yarn install --frozen-lockfile",
  "<% elif packageManager == \"pnpm\" %>",
  "RUN npm install -g pnpm && pnpm install --frozen-lockfile",
  "<% endif %>",
  "",
  "# Copy source code",
  "COPY . .",
  "",
  "# Build application",
  "<% if packageManager == \"npm\" %>",
  "RUN npm run build && npm prune --omit=dev",
  "<% elif packageManager == \"yarn\" %>",
  "RUN yarn build && yarn install --frozen-lockfile --production",
  "<% elif packageManager == \"pnpm\" %>",
  "RUN pnpm build && pnpm prune --prod",
  "<% endif %>",
  "",
  "# Production stage",
  "FROM node:<%= nodeVersion %>-alpine AS production",
  "",
  "# Create app user",
  "RUN addgroup -g 1001 -S nodejs",
  "RUN adduser -S nodeapp -u 1001",
  "",
  "# Set working directory",
  "WORKDIR /app",
  "",
  "# Copy built application",
  "COPY --from=builder --chown=nodeapp:nodejs /app/dist ./dist",
  "COPY --from=builder --chown=nodeapp:nodejs /app/node_modules ./node_modules",
  "COPY --from=builder --chown=nodeapp:nodejs /app/package*.json ./",
  "",
  "# Switch to non-root user",
  "USER nodeapp",
  "",
  "# Expose port",
  "EXPOSE <%= port %>",
  "",
  "# Health check",
  "HEALTHCHECK --interval=30s --timeout=3s --start-period=5s --retries=3 \\",
  "  CMD wget -qO- http://localhost:<%= port %>/health || exit 1",
  "",
  "# Start application",
  "CMD [\"node\", \"dist/index.js\"]"]

def pythonDockerfile : String := unlines [
  "# Build stage",
  "FROM python:<%= pythonVersion %>-slim AS builder",
  "",
  "# Set environment variables",
  "ENV PYTHONUNBUFFERED=1 \\",
  "    PYTHONDONTWRITEBYTECODE=1 \\",
  "    PIP_NO_CACHE_DIR=1 \\",
  "    PIP_DISABLE_PIP_VERSION_CHECK=1",
  "",
  "# Install system dependencies",
  "RUN apt-get update && apt-get install -y \\",
  "    build-essential \\",
  "    curl \\",
  "    && rm -rf /var/lib/apt/lists/*",
  "",
  "# Set working directory",
  "WORKDIR /app",
  "",
  "# Copy requirements first for better caching",
  "COPY requirements.txt .",
  "RUN pip install --user -r requirements.txt",
  "",
  "# Production stage",
  "FROM python:<%= pythonVersion %>-slim AS production",
  "",
  "# Set environment variables",
  "ENV PYTHONUNBUFFERED=1 \\",
  "    PYTHONDONTWRITEBYTECODE=1 \\",
  "    PATH=\"/home/appuser/.local/bin:$PATH\"",
  "",
  "# Create non-root user",
  "RUN adduser --disabled-password --gecos '' appuser",
  "",
  "# Install runtime dependencies",
  "RUN apt-get update && apt-get install -y \\",
  "    curl \\",
  "    && rm -rf /var/lib/apt/lists/*",
  "",
  "# Set working directory",
  "WORKDIR /app",
  "",
  "# Copy installed packages from builder",
  "COPY --from=builder --chown=appuser:appuser /root/.local /home/appuser/.local",
  "",
  "# Copy application code",
  "COPY --chown=appuser:appuser . .",
  "",
  "# Switch to non-root user",
  "USER appuser",
  "",
  "# Expose port",
  "EXPOSE <%= port %>",
  "",
  "# Health check",
  "HEALTHCHECK --interval=30s --timeout=3s --start-period=5s --retries=3 \\",
  "  CMD curl -f http://localhost:<%= port %>/health || exit 1",
  "",
  "# Start application",
  "CMD [\"python\", \"app.py\"]"]

def pythonDockerignore : String := unlines [
  "__pycache__",
  "*.pyc",
  "*.pyo",
  "*.pyd",
  ".Python",
  "pip-log.txt",
  "pip-delete-this-directory.txt",
  ".tox",
  ".coverage",
  ".coverage.*",
  ".cache",
  "nosetests.xml",
  "coverage.xml",
  "*.cover",
  "*.log",
  ".git",
  ".mypy_cache",
  ".pytest_cache",
  ".hypothesis",
  ".DS_Store",
  "Thumbs.db"]

def dockerfileNodejs : Definition where
  id := "dockerfile-nodejs"
  name := "Node.js Dockerfile"
  description := "Multi-stage Dockerfile for Node.js applications"
  category := "container"
  version := Definition.defaultVersion
  files := [
    ⟨"Dockerfile", "./Dockerfile",
      nodeDockerfile, "dockerfile"⟩]
  fields := [
    nodeVersion "Node.js version",
    (Field.choice "packageManager" "Package Manager" .select (selfLabelled ["npm", "yarn", "pnpm"]))
        |>.mandatory
        |>.withDefault (.text "npm")
        |>.describedAs "Package manager to use",
    (Field.plain "port" "Exposed Port" .number)
        |>.mandatory
        |>.withDefault (.ofSmallNat 3000)
        |>.describedAs "Port to expose"]
  examples := .ofList [("express-app", .ofList [
    ("nodeVersion", .text "18"),
    ("packageManager", .text "npm"),
    ("port", .ofSmallNat 3000)])]

def dockerfilePython : Definition where
  id := "dockerfile-python"
  name := "Python Dockerfile"
  description := "Multi-stage Dockerfile for Python applications"
  category := "container"
  version := Definition.defaultVersion
  files := [
    ⟨"Dockerfile", "./Dockerfile",
      pythonDockerfile, "dockerfile"⟩,
    ⟨".dockerignore", "./.dockerignore",
      pythonDockerignore, "text"⟩]
  fields := [
    (Field.choice "pythonVersion" "Python Version" .select [
      ⟨"Python 3.9", "3.9"⟩, ⟨"Python 3.10", "3.10"⟩, ⟨"Python 3.11", "3.11"⟩,
      ⟨"Python 3.12", "3.12"⟩])
        |>.mandatory
        |>.withDefault (.text "3.11")
        |>.describedAs "Python version",
    (Field.plain "port" "Exposed Port" .number)
        |>.mandatory
        |>.withDefault (.ofSmallNat 8000)
        |>.describedAs "Port to expose"]
  examples := .ofList [("flask-app", .ofList [
    ("pythonVersion", .text "3.11"),
    ("port", .ofSmallNat 8000)])]

end Boilerplate.BuiltIn
