import Boilerplate.Catalog.BuiltIn.SharedFields

/-!
# Pipelines

Definitions for continuous integration and deployment.
-/

namespace Boilerplate.BuiltIn

def jenkinsfile : String := unlines [
  "pipeline \x7b",
  "    agent any",
  "",
  "    environment \x7b",
  "        PROJECT_NAME = '<%= projectName %>'",
  "        NODE_VERSION = '<%= nodeVersion %>'",
  "    \x7d",
  "",
  "    tools \x7b",
  "        nodejs \"node-$\x7bNODE_VERSION\x7d\"",
  "    \x7d",
  "",
  "    stages \x7b",
  "        stage('Checkout') \x7b",
  "            steps \x7b",
  "                git branch: 'main', url: '<%= gitRepository %>'",
  "            \x7d",
  "        \x7d",
  "        <% for stage in stages %>",
  "        <% if stage == \"build\" %>",
  "        stage('Build') \x7b",
  "            steps \x7b",
  "                sh 'npm ci'",
  "                sh 'npm run build'",
  "            \x7d",
  "        \x7d",
  "        <% elif stage == \"test\" %>",
  "        stage('Test') \x7b",
  "            steps \x7b",
  "                sh 'npm run test'",
  "            \x7d",
  "            post \x7b",
  "                always \x7b",
  "                    junit 'test-results.xml'",
  "                \x7d",
  "            \x7d",
  "        \x7d",
  "        <% elif stage == \"quality\" %>",
  "        stage('Code Quality') \x7b",
  "            steps \x7b",
  "                sh 'npm run lint'",
  "                sh 'npm audit'",
  "            \x7d",
  "        \x7d",
  "        <% elif stage == \"security\" %>",
  "        stage('Security Scan') \x7b",
  "            steps \x7b",
  "                sh 'npm audit --audit-level moderate'",
  "            \x7d",
  "        \x7d",
  "        <% elif stage == \"deploy\" %>",
  "        stage('Deploy') \x7b",
  "            when \x7b",
  "                branch 'main'",
  "            \x7d",
  "            steps \x7b",
  "                sh 'npm run deploy'",
  "            \x7d",
  "        \x7d",
  "        <% endif %>",
  "        <% endfor %>",
  "    \x7d",
  "",
  "    post \x7b",
  "        always \x7b",
  "            cleanWs()",
  "        \x7d",
  "        success \x7b",
  "            echo 'Pipeline succeeded!'",
  "        \x7d",
  "        failure \x7b",
  "            echo 'Pipeline failed!'",
  "        \x7d",
  "    \x7d",
  "\x7d"]

def githubWorkflow : String := unlines [
  "name: <%= workflowName %>",
  "",
  "on:",
  "<% if triggers has \"push\" %>",
  "  push:",
  "    branches: [ main, develop ]",
  "<% endif %>",
  "<% if triggers has \"pull_request\" %>",
  "  pull_request:",
  "    branches: [ main ]",
  "<% endif %>",
  "<% if triggers has \"schedule\" %>",
  "  schedule:",
  "    - cron: '0 2 * * 1'  # Weekly on Monday at 2 AM",
  "<% endif %>",
  "<% if triggers has \"workflow_dispatch\" %>",
  "  workflow_dispatch:",
  "<% endif %>",
  "",
  "jobs:",
  "  build:",
  "    runs-on: <%= runnerType %>",
  "",
  "    strategy:",
  "      matrix:",
  "        node-version: [<%= nodeVersion %>]",
  "",
  "    steps:",
  "    - name: Checkout code",
  "      uses: actions/checkout@v4",
  "",
  "    - name: Use Node.js $\x7b\x7b matrix.node-version \x7d\x7d",
  "      uses: actions/setup-node@v4",
  "      with:",
  "        node-version: $\x7b\x7b matrix.node-version \x7d\x7d",
  "        cache: 'npm'",
  "",
  "    - name: Install dependencies",
  "      run: npm ci",
  "",
  "    - name: Run tests",
  "      run: npm test",
  "",
  "    - name: Build",
  "      run: npm run build",
  "",
  "    - name: Upload coverage reports",
  "      uses: codecov/codecov-action@v3",
  "      if: success()",
  "",
  "    - name: Deploy to staging",
  "      if: github.ref == 'refs/heads/develop'",
  "      run: |",
  "        echo \"Deploying to staging environment\"",
  "",
  "    - name: Deploy to production",
  "      if: github.ref == 'refs/heads/main'",
  "      run: |",
  "        echo \"Deploying to production environment\""]

def gitlabPipeline : String := unlines [
  "image: <%= image %>",
  "",
  "<% if services %>",
  "services:",
  "<% for service in services %>",
  "  - <%= service %>",
  "<% endfor %>",
  "",
  "<% endif %>",
  "variables:",
  "  NODE_ENV: \"test\"",
  "",
  "stages:",
  "  - install",
  "  - test",
  "  - build",
  "  - deploy",
  "",
  "cache:",
  "  paths:",
  "    - node_modules/",
  "    - .npm/",
  "",
  "before_script:",
  "  - npm ci --cache .npm --prefer-offline",
  "",
  "install_dependencies:",
  "  stage: install",
  "  script:",
  "    - npm ci",
  "  artifacts:",
  "    paths:",
  "      - node_modules/",
  "    expire_in: 1 hour",
  "",
  "test:",
  "  stage: test",
  "  script:",
  "    - npm run test",
  "    - npm run lint",
  "  coverage: '/Lines\\s*:\\s*(\\d+\\.\\d+)%/'",
  "  artifacts:",
  "    reports:",
  "      coverage_report:",
  "        coverage_format: cobertura",
  "        path: coverage/cobertura-coverage.xml",
  "",
  "build:",
  "  stage: build",
  "  script:",
  "    - npm run build",
  "  artifacts:",
  "    paths:",
  "      - dist/",
  "    expire_in: 1 week",
  "",
  "deploy_staging:",
  "  stage: deploy",
  "  script:",
  "    - echo \"Deploying to staging...\"",
  "  environment:",
  "    name: staging",
  "    url: https://staging.example.com",
  "  only:",
  "    - develop",
  "",
  "deploy_production:",
  "  stage: deploy",
  "  script:",
  "    - echo \"Deploying to production...\"",
  "  environment:",
  "    name: production",
  "    url: https://example.com",
  "  only:",
  "    - main",
  "  when: manual"]

def jenkinsPipeline : Definition where
  id := "jenkins-pipeline"
  name := "Jenkins Pipeline"
  description := "Declarative Jenkins pipeline with best practices"
  category := "cicd"
  version := Definition.defaultVersion
  files := [
    ⟨"Jenkinsfile", "./Jenkinsfile",
      jenkinsfile, "groovy"⟩]
  fields := [
    (Field.plain "projectName" "Project Name" .text)
        |>.mandatory
        |>.describedAs "Name of your project",
    (Field.plain "gitRepository" "Git Repository" .text)
        |>.mandatory
        |>.describedAs "Git repository URL",
    nodeVersion "Node.js version to use",
    (Field.choice "stages" "Pipeline Stages" .multiSelect [
      ⟨"Build", "build"⟩, ⟨"Test", "test"⟩, ⟨"Code Quality", "quality"⟩,
      ⟨"Security Scan", "security"⟩, ⟨"Deploy", "deploy"⟩])
        |>.mandatory
        |>.withDefault (.list ["build", "test", "deploy"])
        |>.describedAs "Select pipeline stages"]
  examples := .ofList [("basic", .ofList [
    ("projectName", .text "my-webapp"),
    ("gitRepository", .text "https://github.com/user/my-webapp.git"),
    ("nodeVersion", .text "18"),
    ("stages", .list ["build", "test", "deploy"])])]

def githubActions : Definition where
  id := "github-actions"
  name := "GitHub Actions"
  description := "GitHub Actions workflow with modern practices"
  category := "cicd"
  version := Definition.defaultVersion
  files := [
    ⟨"<%= workflowName | kebab %>.yml", "./.github/workflows/<%= workflowName | kebab %>.yml",
      githubWorkflow, "yaml"⟩]
  fields := [
    (Field.plain "workflowName" "Workflow Name" .text)
        |>.mandatory
        |>.describedAs "Name of the GitHub Actions workflow",
    (Field.choice "triggers" "Triggers" .multiSelect [
      ⟨"Push", "push"⟩, ⟨"Pull Request", "pull_request"⟩, ⟨"Schedule", "schedule"⟩,
      ⟨"Manual", "workflow_dispatch"⟩])
        |>.mandatory
        |>.withDefault (.list ["push", "pull_request"])
        |>.describedAs "Workflow triggers",
    (Field.choice "runnerType" "Runner Type" .select [
      ⟨"Ubuntu Latest", "ubuntu-latest"⟩, ⟨"Ubuntu 22.04", "ubuntu-22.04"⟩,
      ⟨"Ubuntu 20.04", "ubuntu-20.04"⟩, ⟨"Windows Latest", "windows-latest"⟩,
      ⟨"macOS Latest", "macos-latest"⟩])
        |>.mandatory
        |>.withDefault (.text "ubuntu-latest")
        |>.describedAs "GitHub Actions runner type",
    nodeVersion "Node.js version to use"]
  examples := .ofList [("web-app", .ofList [
    ("workflowName", .text "CI/CD Pipeline"),
    ("triggers", .list ["push", "pull_request", "workflow_dispatch"]),
    ("runnerType", .text "ubuntu-latest"),
    ("nodeVersion", .text "18")])]

def gitlabCi : Definition where
  id := "gitlab-ci"
  name := "GitLab CI"
  description := "GitLab CI/CD pipeline configuration"
  category := "cicd"
  version := Definition.defaultVersion
  files := [
    ⟨".gitlab-ci.yml", "./.gitlab-ci.yml",
      gitlabPipeline, "yaml"⟩]
  fields := [
    (Field.plain "image" "Docker Image" .text)
        |>.mandatory
        |>.withDefault (.text "node:18")
        |>.describedAs "Docker image for the pipeline",
    (Field.choice "services" "Services" .multiSelect [
      ⟨"PostgreSQL", "postgres:13"⟩, ⟨"MySQL", "mysql:8"⟩, ⟨"Redis", "redis:6"⟩,
      ⟨"MongoDB", "mongo:5"⟩])
        |>.describedAs "Additional services to run"]
  examples := .ofList [("nodejs-app", .ofList [
    ("image", .text "node:18"),
    ("services", .list ["postgres:13", "redis:6"])])]

end Boilerplate.BuiltIn
